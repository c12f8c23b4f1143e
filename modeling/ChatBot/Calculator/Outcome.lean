import ChatBot.Calculator.Alphabet
import ChatBot.Calculator.Value
import ChatBot.Platform

/-!
What comes of a calculation, and the reply to it.

* `Failure`: why there is no value, with its wording;
* `Outcome`: a value or a failure;
* `showValue`: a value as replies show it;
* `classify`: the reply, where an answer longer than the limit is a failure.
-/

namespace ChatBot.Calculator

/-- Why a calculation has no value to show. -/
inductive Failure where
  | syntaxError
  | divisionByZero
  | outputTooLarge
  | timeout
  | internal (detail : String)
  deriving DecidableEq, Repr

/-- The wording of a failure. -/
def Failure.message : Failure → String
  | .syntaxError => "Syntax error"
  | .divisionByZero => "Error: Division by zero"
  | .outputTooLarge => "Output too long"
  | .timeout => "Execution exceeded time limit"
  | .internal detail => "Error: " ++ detail

/-- The failure that reports an error of the evaluation. -/
def Failure.ofEvalError : EvalError → Failure
  | .malformed _ => .syntaxError
  | .divisionByZero => .divisionByZero
  | .overflow => .internal EvalError.overflow.message
  | .domain => .internal EvalError.domain.message

/-- What comes of a calculation. -/
inductive Outcome where
  | success (value : Float)
  | failure (cause : Failure)
  deriving DecidableEq

/-- The outcome of an evaluation. -/
def Outcome.ofResult : Except EvalError Float → Outcome
  | .ok x => .success x
  | .error cause => .failure (.ofEvalError cause)

/-- A value as replies show it: zero has no sign. -/
def showValue (x : Float) : String := Binary64.text (if x == 0 then 0 else x)

/-- The answer that shows a value. -/
def answer (expression : List Char) (x : Float) : String :=
  String.ofList expression ++ " = " ++ showValue x

/-- The reply to the calculation of `expression`, of at most `limit` characters. -/
def classify (expression : List Char) (outcome : Outcome) (limit : Nat) : Reply :=
  match outcome with
  | .success x =>
    if (answer expression x).length ≤ limit then .text (answer expression x)
    else .failure Failure.outputTooLarge.message
  | .failure cause => .failure cause.message

end ChatBot.Calculator
