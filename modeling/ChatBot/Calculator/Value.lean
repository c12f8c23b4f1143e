import ChatBot.Calculator.Tree

/-!
The value of an expression.

* `EvalError`: why an expression has no value, with its wording;
* `finite`: what a result must be;
* `Tree.eval`: the value of a tree, `evaluate`: the value of a text.
-/

namespace ChatBot.Calculator

/-- Why an expression has no value: the text is no expression, something is divided by zero, or the
result is beyond the largest number or no number. -/
inductive EvalError where
  | malformed (detail : String)
  | divisionByZero
  | overflow
  | domain
  deriving DecidableEq, Repr

/-- The wording of an error. -/
def EvalError.message : EvalError → String
  | .malformed detail => "invalid syntax: " ++ detail
  | .divisionByZero => "division by zero"
  | .overflow => "math range error"
  | .domain => "math domain error"

/-- The result of an operation, if it is a finite number. -/
def finite (x : Float) : Except EvalError Float :=
  if x.isFinite then .ok x else if x.isNaN then .error .domain else .error .overflow

/-- The value of a function. -/
def Func.apply (f : Func) (x : Float) : Float :=
  match f with
  | .sin => x.sin
  | .cos => x.cos
  | .tan => x.tan

/-- The remainder that has the sign of the divisor. -/
def modulo (x y : Float) : Float :=
  let r := Binary64.remainder x y
  if r != 0 && decide (r < 0) != decide (y < 0) then r + y else r

/-- The power of two numbers: zero has no negative powers, a negative number only whole ones. -/
def power (base exponent : Float) : Except EvalError Float :=
  if base == 0 && exponent < 0 then .error .divisionByZero
  else if base < 0 && !Binary64.isWhole exponent then .error .domain
  else finite (base.pow exponent)

/-- The result of an operator. -/
def Operator.apply (op : Operator) (x y : Float) : Except EvalError Float :=
  match op with
  | .add => finite (x + y)
  | .sub => finite (x - y)
  | .mul => finite (x * y)
  | .div => if y == 0 then .error .divisionByZero else finite (x / y)
  | .floorDiv => if y == 0 then .error .divisionByZero else finite (Binary64.floor (x / y))
  | .mod => if y == 0 then .error .divisionByZero else .ok (modulo x y)
  | .pow => power x y

/-- The value of a tree. -/
def Tree.eval : Tree → Except EvalError Float
  | .number x => .ok x
  | .neg operand => do return -(← operand.eval)
  | .call f argument => do finite (f.apply (← argument.eval))
  | .binary op left right => do
    let x ← left.eval
    let y ← right.eval
    op.apply x y

/-- The tree of a text, with the error of an evaluation. -/
def parse (cs : List Char) : Except EvalError Tree :=
  (Tree.ofText cs).mapError fun cause => .malformed cause.message

/-- The value of a text. -/
def evaluate (cs : List Char) : Except EvalError Float := do (← parse cs).eval

end ChatBot.Calculator
