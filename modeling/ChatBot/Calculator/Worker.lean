import ChatBot.Calculator.Outcome
import ChatBot.Json.Reading
import ChatBot.Text.Blank

/-!
The process that evaluates, and how its answer comes back.

Expressions are evaluated by a process of their own, which writes one JSON object: a value, or the
error of the evaluation.

* `WorkerReply.write`, `WorkerReply.ofText?`: the answer as text, and read from text;
* `Worker`: the ways a process may behave;
* `Worker.run`: the outcome of a calculation by a worker. What the process says never shows, except
  for a value;
* `calculate`: the reply to a calculation, from raw text on.
-/

namespace ChatBot.Calculator

open ChatBot.Json (Node Record)

/-- What a worker answers. -/
inductive WorkerReply where
  | value (x : Float)
  | error (cause : EvalError)
  deriving DecidableEq

namespace WorkerReply

/-- The answer that reports an evaluation. -/
def ofResult : Except EvalError Float → WorkerReply
  | .ok x => .value x
  | .error cause => .error cause

/-- The result of the evaluation that is reported. -/
def result : WorkerReply → Except EvalError Float
  | .value x => .ok x
  | .error cause => .error cause

/-- An error as JSON. -/
def errorJson : EvalError → Json
  | .malformed detail => .object [("kind", .string "syntax"), ("detail", .string detail)]
  | .divisionByZero => .object [("kind", .string "division_by_zero")]
  | .overflow => .object [("kind", .string "overflow")]
  | .domain => .object [("kind", .string "domain")]

/-- An answer as JSON. What is no finite number has no JSON and is written as `null`. -/
def json : WorkerReply → Json
  | .value x =>
    .object [("status", .string "value"),
      ("value", if x.isFinite then .number (.real x) else .null)]
  | .error cause => .object [("status", .string "error"), ("error", errorJson cause)]

/-- The text of an answer. -/
def write (reply : WorkerReply) : List Char := reply.json.compact

/-- The kind of an error: its name, or an object whose only field has that name and holds
nothing. -/
def kind? : Node → Option String
  | .string s => s
  | .object [(key, .null)] => key
  | .object [(key, .object [])] => key
  | _ => none

/-- The error of a kind. Only a malformed expression has a detail. -/
def errorOfKind? (kind : String) (detail : Option Node) : Option EvalError :=
  if kind == "syntax" then do return .malformed (← (← detail).text?)
  else
    match detail with
    | none | some .null =>
      [("division_by_zero", EvalError.divisionByZero), ("overflow", .overflow),
        ("domain", .domain)].lookup kind
    | some _ => none

/-- An error, from an object or from an array of kind and detail. -/
def errorOfNode? (node : Node) : Option EvalError := do
  let r ← Record.ofNode? ["kind", "detail"] node
  let kind ← r.required? "kind" kind?
  let detail := r.present.lookup "detail"
  if r.positional && detail.isNone then none else errorOfKind? kind detail

/-- An answer of a status, whose other fields are given. -/
def ofStatus? (status : String) (fields : Node) : Option WorkerReply :=
  if status == "value" then do
    let r ← Record.ofNode? ["value"] fields
    return .value (← r.required? "value" Node.float?)
  else if status == "error" then do
    let r ← Record.ofNode? ["error"] fields
    return .error (← r.required? "error" errorOfNode?)
  else none

/-- The status among the fields of an object, and the other fields. -/
def splitStatus? : List (Option String × Node) → Option (Option Node × List (Option String × Node))
  | [] => some (none, [])
  | (key, node) :: rest => do
    let (status, others) ← splitStatus? rest
    if key == some "status" then
      if status.isSome then none else some (some node, others)
    else some (status, (key, node) :: others)

/-- An answer, from an object or from an array that starts with the status. -/
def ofNode? (node : Node) : Option WorkerReply := do
  let (status, fields) ← match node with
    | .object fields => do
      let (status, others) ← splitStatus? fields
      some (← status, Node.object others)
    | .array (status :: rest) => some (status, .array rest)
    | _ => none
  let _ ← fields.value? Json.maxDepth
  ofStatus? (← status.text?) fields

/-- The answer of a whole text. -/
def ofText? (cs : List Char) : Option WorkerReply := do ofNode? (← Node.ofText? cs)

end WorkerReply

/-! ### Processes -/

/-- The ways in which the process that should evaluate behaves: it evaluates and answers, it writes
a text and ends with an exit code, it never answers, or it cannot be started. -/
inductive Worker where
  | faithful
  | scripted (output : String) (exitCode : Int)
  | hanging
  | missing
  deriving DecidableEq

/-- What the evaluating process writes, given what it reads. -/
def respond (input : List Char) : WorkerReply := .ofResult (evaluate (Text.trim input))

namespace Worker

/-- The outcome of what a process wrote before it ended. -/
def outcomeOf (output : List Char) (exitCode : Int) : Outcome :=
  match if exitCode = 0 then WorkerReply.ofText? (Text.trim output) else none with
  | some reply => .ofResult reply.result
  | none => .failure (.internal "calculation failed")

/-- The outcome of a calculation. -/
def run (worker : Worker) (expression : List Char) : Outcome :=
  match worker with
  | .faithful => outcomeOf ((respond expression).write ++ ['\n']) 0
  | .scripted output exitCode => outcomeOf output.toList exitCode
  | .hanging => .failure .timeout
  | .missing => .failure (.internal "calculator unavailable")

end Worker

/-- The reply to a calculation on a platform. -/
def calculate (worker : Worker) (raw : String) (platform : Platform) : Reply :=
  let expression := sanitize raw.toList
  classify expression (worker.run expression) platform.messageLimit

end ChatBot.Calculator
