import ChatBot.Binary64.Layout
import ChatBot.Json.Reading
import ChatBot.Text.LetterCase
import ChatBot.Web.Exchange

/-!
Foreign exchange rates.

* `ExchangeRates`: what one unit of a currency is worth in others;
* `reportedFailure?`: the failure that a response reports, which it may do with any status;
* `ExchangeRates.ofResponse`: the rates in a response;
* `exchangeRates`: the query for the rates of today or of a day.
-/

namespace ChatBot.Finance

open ChatBot.Json (Node Record)
open ChatBot.Web (ApiError Query Response)

/-- What one unit of the currency `base` is worth in others on a day, in the order of their
codes. -/
structure ExchangeRates where
  base : String
  date : String
  rates : List (String × Float)
  deriving DecidableEq

/-- The rates, where they are given as such. -/
def ExchangeRates.ofNode? (node : Node) : Option ExchangeRates := do
  let r ← Record.ofNode? ["base", "date", "rates"] node
  return {
    base := ← r.required? "base" Node.text?
    date := ← r.required? "date" Node.text?
    rates := ← r.required? "rates" (Node.map? Node.float?) }

/-- A field of a value, if the value is an object that has it. -/
def field? (value : Json) (key : String) : Option Json :=
  match value with
  | .object fields => Json.Fields.get? fields key
  | _ => none

/-- What a failure is called when nothing else is said about it. -/
def unknownFailure : String := "unknown error"

/-- The words for a failure: a text itself, else the information in it or its type. -/
def failureDetail (failure : Json) : String :=
  match failure with
  | .string s => s
  | failure =>
    (((field? failure "info").orElse fun _ => field? failure "type").bind Json.string?).getD
      unknownFailure

/-- The failure that a body reports, if it does: it has an error, or denies success. -/
def reportedFailure? (body : Json) : Option String :=
  match field? body "error" with
  | some failure => some (failureDetail failure)
  | none =>
    match field? body "success" with
    | some (.bool false) => some unknownFailure
    | _ => none

namespace ExchangeRates

/-- The rates in a body that is already known to be JSON. -/
def ofBody (body : Json) : Except ApiError ExchangeRates :=
  match reportedFailure? body with
  | some detail => .error (.service detail)
  | none =>
    match ofNode? (Node.ofValue body) with
    | some rates => .ok rates
    | none => .error .undecodable

/-- The rates in a response, whatever its status. -/
def ofResponse (r : Response) : Except ApiError ExchangeRates := do
  ofBody (← r.decodeBody (Node.value? Json.maxDepth))

/-- A line for each rate. -/
def text (r : ExchangeRates) : String :=
  "\n".intercalate
    (["Against " ++ r.base] ++ r.rates.map (fun (code, rate) => s!"{code}: {Binary64.text rate}") ++
      ["Date: " ++ r.date])

end ExchangeRates

/-- Where the rates are served. -/
def ratesUrl : String := "https://data.fixer.io/api"

/-- A parameter in upper case; none, if it is empty. -/
def upperParameter (name value : String) : List (String × String) :=
  if value.isEmpty then [] else [(name, value.uppercase)]

/-- The query for rates, of today or of a given day. An empty currency stands for the usual one, and
an empty list of other currencies for all. -/
def exchangeRates (key : Option String) (day : Option String) (base symbols : String) :
    Query ExchangeRates :=
  match key with
  | none => throw (.service "no fixer.io API key configured")
  | some key => do
    let response ← Web.get (ratesUrl ++ "/" ++ day.getD "latest")
      (("access_key", key) :: upperParameter "base" base ++ upperParameter "symbols" symbols)
    ExceptT.mk (.done (ExchangeRates.ofResponse response))

end ChatBot.Finance
