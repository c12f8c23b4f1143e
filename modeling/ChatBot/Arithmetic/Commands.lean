import ChatBot.Arithmetic.Factorial
import ChatBot.Arithmetic.Function
import ChatBot.Calculator.Worker
import ChatBot.Command.Basic

/-!
The commands for calculations.

* `numberArg`, `integerArg`: arguments that are numbers;
* `sumReply`, `factorialReply`, `divisorReply`: the replies to sums, factorials and greatest common
  divisors;
* `commands`: the commands, given what evaluates expressions.
-/

namespace ChatBot.Arithmetic

/-- A text as a number. -/
def readNumber (s : String) : Except CommandError Float :=
  match s.toFloat? with
  | some x => .ok x
  | none => .error (.invalidArgs (s ++ " is not a number"))

/-- An argument that is a number. -/
def numberArg (m : Message) : Except CommandError Float := do
  readNumber (← m.requiredArg 0 "value")

/-- An argument that is an integer. -/
def integerArg (m : Message) (index : Nat) : Except CommandError Int := do
  let s ← m.requiredArg index "value"
  match s.toInt64? with
  | some n => .ok n
  | none => .error (.invalidArgs (s ++ " is not an integer"))

/-- The sum of some terms, with the terms. -/
def sumText (terms : List Float) : String :=
  if terms.isEmpty then "Add what?"
  else " + ".intercalate (terms.map Calculator.showValue) ++ " = " ++
    Calculator.showValue (terms.foldl (· + ·) 0)

/-- The sum of the arguments. -/
def sumReply (m : Message) : Except CommandError Reply := do
  return .text (sumText (← m.content.args.mapM readNumber))

/-- Larger numbers have factorials that are too long for every platform. -/
def maxFactorial : Int := 1000

/-- The report of an answer that is too long. -/
def tooLong : Reply := .failure Calculator.Failure.outputTooLarge.message

/-- The factorial of a number, if it has at most `limit` digits. -/
def factorialOf (n : Int) (limit : Nat) : Reply :=
  if n < 0 then .failure "Error: factorial() not defined for negative values"
  else if maxFactorial < n then tooLong
  else
    let digits := factorialText n.toNat
    if limit < digits.length then tooLong else .text (String.ofList digits)

/-- The factorial of the argument. -/
def factorialReply (m : Message) : Except CommandError Reply := do
  return factorialOf (← integerArg m 0) m.platform.messageLimit

/-- The greatest common divisor of two arguments, without signs. -/
def divisorReply (m : Message) : Except CommandError Reply := do
  let a ← integerArg m 0
  return .text (toString (Int.gcd a (← integerArg m 1)))

/-- The command of a function. -/
def Function.command (f : Function) : Command where
  name := f.name
  description := f.description
  aliases := f.aliases
  usage := f.name ++ " <value>"
  handler := Handler.ofResult fun m => f.reply <$> numberArg m

/-- The commands for calculations. -/
def commands (worker : Calculator.Worker) : List Command :=
  [{ name := "calculate", description := "Calculator", aliases := ["calc", "calculator"],
     usage := "calculate <expression>",
     handler := Handler.ofResult fun m =>
       .ok (Calculator.calculate worker m.content.rest m.platform) },
   { name := "add", description := "Add numbers together", usage := "add <numbers...>",
     handler := Handler.ofResult sumReply },
   { name := "factorial", description := "Factorial", usage := "factorial <integer>",
     handler := Handler.ofResult factorialReply },
   { name := "gcd", description := "Greatest common divisor",
     aliases := ["greatest_common_divisor"], usage := "gcd <a> <b>",
     handler := Handler.ofResult divisorReply }] ++ functions.map Function.command

end ChatBot.Arithmetic
