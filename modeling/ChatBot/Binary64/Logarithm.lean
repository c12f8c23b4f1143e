import ChatBot.Binary64.Basic

/-!
Inverse hyperbolic functions.

They are logarithms of sums with square roots. These are computed on whole numbers in units of
`2 ^ (-precision)`, with more than a hundred bits beyond those of the result, which is then rounded
once.

* `sqrtDown`: the whole part of a square root;
* `logarithm`: the natural logarithm of a quotient, in fixed point;
* `asinh`, `acosh`, `atanh`: the functions.
-/

namespace ChatBot.Binary64

-- Powers are those of the core library, whatever else is imported.
attribute [local instance (high)] instPowNat

/-- Newton's iteration for a square root, from a guess that is not too small down to the whole part
of the root. -/
def sqrtFrom (n guess : Nat) : Nat :=
  let next := (guess + n / guess) / 2
  if next < guess then sqrtFrom n next else guess
termination_by guess

/-- The whole part of a square root. -/
def sqrtDown (n : Nat) : Nat := if n = 0 then 0 else sqrtFrom n (2 ^ (n.log2 / 2 + 1))

/-- The sum of `term / k + term * factor / (k + 2) + …`, in units of `2 ^ (-precision)`, up to the
first term that vanishes. -/
def oddSeries (precision factor : Nat) : (terms k term : Nat) → Nat
  | 0, _, _ => 0
  | terms + 1, k, term =>
    if term = 0 then 0
    else term / k + oddSeries precision factor terms (k + 2) (term * factor / 2 ^ precision)

/-- The logarithm of `(den + num) / (den - num)`, where `num` is at most half of `den`. -/
def logOfRatio (precision num den : Nat) : Nat :=
  let z := num * 2 ^ precision / den
  2 * oddSeries precision (z * z / 2 ^ precision) precision 1 z

/-- The logarithm of a quotient that is not below one, in units of `2 ^ (-precision)`. The quotient
is halved until it is below two; the logarithm of two is that of `(3 + 1) / (3 - 1)`. -/
def logarithm (precision num den : Nat) : Nat :=
  let halvings := (num / den).log2
  let den := den * 2 ^ halvings
  halvings * logOfRatio precision 1 3 + logOfRatio precision (num - den) (num + den)

/-- The bits that are computed beyond those of the argument. -/
def guardBits : Nat := 192

/-- The places behind the point for an argument of `mantissa * 2 ^
exponent`: they hold it exactly. -/
def placesFor (exponent : Int) : Nat := guardBits + (-exponent).toNat

/-- The argument `mantissa * 2 ^ exponent` in units of `2 ^ (-places)`. -/
def fixed (places mantissa : Nat) (exponent : Int) : Nat := mantissa * 2 ^ (exponent + places).toNat

/-- The inverse hyperbolic sine: the logarithm of `x + √(x² + 1)`. -/
def asinh (x : Float) : Float :=
  match parts x with
  | .finite negative m e =>
    let places := placesFor e
    let one := 2 ^ places
    let n := fixed places m e
    nearest negative (logarithm places (n + sqrtDown (n * n + one * one)) one) one
  | _ => x

/-- The inverse hyperbolic cosine: the logarithm of `x + √(x² - 1)`, for a number from one on. -/
def acosh (x : Float) : Float :=
  match parts x with
  | .finite negative m e =>
    let places := placesFor e
    let one := 2 ^ places
    let n := fixed places m e
    if negative || n < one then nan
    else nearest false (logarithm places (n + sqrtDown (n * n - one * one)) one) one
  | .infinite false => x
  | _ => nan

/-- The inverse hyperbolic tangent: half the logarithm of `(1 + x) / (1 - x)`. It is infinite at one
and minus one, and undefined beyond. -/
def atanh (x : Float) : Float :=
  match parts x with
  | .finite negative m e =>
    let places := placesFor e
    let one := 2 ^ places
    let n := fixed places m e
    if n < one then nearest negative (logarithm places (one + n) (one - n)) (2 * one)
    else if n = one then infinity negative
    else nan
  | _ => nan

end ChatBot.Binary64
