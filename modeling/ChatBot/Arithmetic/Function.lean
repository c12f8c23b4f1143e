import ChatBot.Binary64.Logarithm
import ChatBot.Calculator.Outcome

/-!
Functions of one number, as commands offer them.

* `Function`: a function with its name and description;
* `Function.reply`: the reply that shows a value, or tells that there is none;
* `functions`: all of them.
-/

namespace ChatBot.Arithmetic

/-- A function of one number, with its description in words. If it is `isFinite`, an infinite value
counts as none at all, wherever it comes from. -/
structure Function where
  name : String
  description : String
  aliases : List String := []
  isFinite : Bool := false
  apply : Float → Float

/-- The report of an argument that the function is not defined for. -/
def domainError : Reply := .failure (Calculator.Failure.internal "math domain error").message

/-- The report of a value beyond the largest number. -/
def rangeError : Reply := .failure (Calculator.Failure.internal "math range error").message

/-- The reply that shows the value of a function. An infinite value is an error unless the argument
is infinite as well. -/
def Function.reply (f : Function) (x : Float) : Reply :=
  let y := f.apply x
  if y.isNaN || (y.isInf && f.isFinite) then domainError
  else if y.isInf && x.isFinite then rangeError
  else .text (Calculator.showValue y)

/-- The functions that are commands. -/
def functions : List Function :=
  [{ name := "exp", description := "Exponential function", apply := Float.exp },
   { name := "sqrt", description := "Square root", aliases := ["squareroot", "square_root"],
     isFinite := true, apply := Float.sqrt },
   { name := "sin", description := "Sine function", apply := Float.sin },
   { name := "cos", description := "Cosine function", apply := Float.cos },
   { name := "tan", description := "Tangent function", apply := Float.tan },
   { name := "asin", description := "Arc sine function", apply := Float.asin },
   { name := "acos", description := "Arc cosine function", apply := Float.acos },
   { name := "atan", description := "Arc tangent function", apply := Float.atan },
   { name := "sinh", description := "Hyperbolic sine function", apply := Float.sinh },
   { name := "cosh", description := "Hyperbolic cosine function", apply := Float.cosh },
   { name := "tanh", description := "Hyperbolic tangent function", apply := Float.tanh },
   { name := "asinh", description := "Inverse hyperbolic sine function", apply := Binary64.asinh },
   { name := "acosh", description := "Inverse hyperbolic cosine function",
     apply := Binary64.acosh },
   { name := "atanh", description := "Inverse hyperbolic tangent function", isFinite := true,
     apply := Binary64.atanh }]

end ChatBot.Arithmetic
