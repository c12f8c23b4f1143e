import ChatBot.Binary64.Basic

/-!
Powers of two with a fractional exponent, by fixed point arithmetic.

* `powerOfTwo`: the power of two of a number that is not negative, rounded to nearest.

The fraction of the exponent is multiplied by the logarithm of two and put into the exponential
series, all in units of `2 ^ (-precision)`.
-/

namespace ChatBot.Binary64

-- Powers and sums are those of the core library, whatever else is imported.
attribute [local instance (high)] instPowNat Zero.ofOfNat0

/-- The number of binary places of the fixed point numbers. -/
def precision : Nat := 192

/-- The number one. -/
def fixedOne : Nat := 2 ^ precision

/-- The natural logarithm of two, as the sum of `1 / (k * 2 ^ k)`. -/
def fixedLog : Nat := ((List.range precision).map fun k => fixedOne / ((k + 1) * 2 ^ (k + 1))).sum

/-- The next `n` terms of the exponential series of `x`, where `term` is the one with number `k`. -/
def exponentialTerms (x : Nat) : Nat → Nat → Nat → Nat
  | 0, _, _ => 0
  | n + 1, k, term => term + exponentialTerms x n (k + 1) (term * x / fixedOne / (k + 1))

/-- How many terms of the series are summed. -/
def seriesLength : Nat := 50

/-- The power of two of a fraction. -/
def fixedPower (fraction : Nat) : Nat :=
  exponentialTerms (fraction * fixedLog / fixedOne) seriesLength 0 fixedOne

/-- The power of two of a number that is not negative. -/
def powerOfTwo (x : Float) : Float :=
  match parts x with
  | .finite _ m e =>
    let units := if 0 ≤ e then m * 2 ^ e.toNat * fixedOne else m * fixedOne / 2 ^ (-e).toNat
    nearest false (fixedPower (units % fixedOne) * 2 ^ (units / fixedOne)) fixedOne
  | _ => x

end ChatBot.Binary64
