import ChatBot.Json.Reading
import ChatBot.Text.Blank

/-!
Requests to web services, and what becomes of them.

* `Request`, `Response`, `Answer`: what is asked and answered. An answer may also
  be a failure of the transport;
* `Exchange`: a computation that may ask. What it asks next may depend on the answers so far;
* `Exchange.run`: the result of a computation and the requests it made, given the answers in order;
* `ApiError`: why a service gives no data, with its wording;
* `decode`: the data in a successful response.
-/

namespace ChatBot.Web

/-- A request for a resource: the address without the query, and the parameters of the query, each
with its value, in order. -/
structure Request where
  url : String
  query : List (String × String) := []
  deriving DecidableEq, Repr

/-- A complete response: the status code, and the text that came back. -/
structure Response where
  status : Nat
  body : String
  deriving DecidableEq, Repr

/-- What becomes of a request: a response, or the reason why there is none. -/
abbrev Answer := Except String Response

/-- A computation that may ask services. It is done with a result, or it makes a request and goes on
with the answer. -/
inductive Exchange (α : Type) where
  | done (result : α)
  | ask (request : Request) (next : Answer → Exchange α)

namespace Exchange

/-- One computation after another. -/
def bind {α β : Type} (x : Exchange α) (f : α → Exchange β) : Exchange β :=
  match x with
  | .done a => f a
  | .ask request next => .ask request fun answer => (next answer).bind f

instance : Monad Exchange where
  pure := .done
  bind := bind

/-- What came of a computation: the result, the requests that were made, in order, and the answers
that were not needed. -/
structure Run (α : Type) where
  result : α
  requests : List Request
  unused : List Answer

/-- Runs a computation. Once the answers are used up every request gets the answer `last`. -/
def run {α : Type} (last : Answer) : List Answer → Exchange α → Run α
  | answers, .done a => ⟨a, [], answers⟩
  | [], .ask request next =>
    let r := run last [] (next last)
    { r with requests := request :: r.requests }
  | answer :: rest, .ask request next =>
    let r := run last rest (next answer)
    { r with requests := request :: r.requests }

end Exchange

/-- Why a service gives no data: the request got no response, the service reports an error, the
response is not in the form that was expected, or it does not hold what was asked for. -/
inductive ApiError where
  | transport (detail : String)
  | service (detail : String)
  | undecodable
  | notFound (what : String)
  deriving DecidableEq, Repr

/-- The wording of an error. How a response differs from the expected form is not told. -/
def ApiError.message : ApiError → String
  | .transport detail => "Request failed: " ++ detail
  | .service detail => "Error: " ++ detail
  | .undecodable => "Unexpected response: *"
  | .notFound what => what ++ " not found"

namespace Response

/-- The status is one of those for success. -/
def isSuccess (r : Response) : Bool := 200 ≤ r.status && r.status < 300

/-- The body, without blanks at its ends. -/
def trimmedBody (r : Response) : String := r.body.trimBlanks

/-- The error that a response reports with its body. -/
def serviceError (r : Response) : ApiError := .service r.trimmedBody

/-- The data in the body, whatever the status. -/
def decodeBody {α : Type} (value? : Json.Node → Option α) (r : Response) : Except ApiError α :=
  match (Json.Node.ofText? r.body.toList).bind value? with
  | some a => .ok a
  | none => .error .undecodable

/-- The data in the body of a successful response. -/
def decode {α : Type} (value? : Json.Node → Option α) (r : Response) : Except ApiError α :=
  if r.isSuccess then r.decodeBody value? else .error r.serviceError

end Response

/-- A computation that may ask services and may fail with one of their errors. -/
abbrev Query (α : Type) := ExceptT ApiError Exchange α

/-- Asks for a resource. -/
def get (url : String) (query : List (String × String) := []) : Query Response :=
  .mk (.ask ⟨url, query⟩ fun
    | .ok response => .done (.ok response)
    | .error detail => .done (.error (.transport detail)))

/-- Asks for a resource and decodes the response. -/
def fetch {α : Type} (url : String) (query : List (String × String))
    (value? : Json.Node → Option α) : Query α := do
  ExceptT.mk (.done ((← get url query).decode value?))

end ChatBot.Web
