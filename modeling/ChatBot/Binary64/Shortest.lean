import ChatBot.Binary64.Basic

/-!
The shortest decimal that identifies a binary64 number.

A positive number `m * 2 ^ e` is the nearest one to every real of an interval around it. Of the
decimal grids `10 ^ g` the coarsest one with a point in that interval is taken, and on it the point
nearest to the number. The digits of that point are the fewest that read back as the number.

* `Decimal`: a significand and a power of ten;
* `shortest`: the decimal of a positive number, where `Tie` settles an exact tie between two points.
-/

namespace ChatBot.Binary64

-- Powers are those of the core library, whatever else is imported.
attribute [local instance (high)] instPowNat

/-- The decimal number `significand * 10 ^ exponent`. -/
structure Decimal where
  significand : Nat
  exponent : Int
  deriving DecidableEq, Repr

/-- Which of two equally near decimals is taken: the larger one, or the one with the even last
digit. -/
inductive Tie where
  | up
  | even
  deriving DecidableEq, Repr

/-- The reals that are nearest to `mantissa * 2 ^ exponent`, in units of `2 ^ unit`: the number is
in the `middle`, and the ends belong to a `closed` interval. -/
structure Interval where
  unit : Int
  low : Nat
  middle : Nat
  high : Nat
  closed : Bool
  deriving DecidableEq, Repr

/-- The interval around a number. It is half as wide below a power of two, where the spacing of the
numbers changes, and closed where ties go to the number itself. -/
def Interval.around (mantissa : Nat) (exponent : Int) : Interval :=
  let narrow := mantissa == 2 ^ (52 : Nat) && decide (-1074 < exponent)
  { unit := exponent - 2
    low := 4 * mantissa - (if narrow then 1 else 2)
    middle := 4 * mantissa
    high := 4 * mantissa + 2
    closed := mantissa % 2 == 0 }

namespace Interval

/-- The factors that turn units of the interval and steps of the grid `10 ^ g` into one common
unit. -/
def factors (i : Interval) (g : Int) : Nat × Nat :=
  let units := if 0 ≤ i.unit then 2 ^ i.unit.toNat else 1
  let perUnit := if 0 ≤ i.unit then 1 else 2 ^ (-i.unit).toNat
  let steps := if 0 ≤ g then 10 ^ g.toNat else 1
  let perStep := if 0 ≤ g then 1 else 10 ^ (-g).toNat
  (units * perStep, steps * perUnit)

/-- The point `n` of a grid lies in the interval, where `unit` and `step` are in one common unit. -/
def holds (i : Interval) (unit step n : Nat) : Bool :=
  if i.closed then decide (i.low * unit ≤ n * step) && decide (n * step ≤ i.high * unit)
  else decide (i.low * unit < n * step) && decide (n * step < i.high * unit)

/-- The point of the grid `10 ^ g` in the interval that is nearest to the number, if there is
one. -/
def pointOn (i : Interval) (tie : Tie) (g : Int) : Option Nat :=
  let (unit, step) := i.factors g
  let below := i.middle * unit / step
  let above := below + 1
  match i.holds unit step below, i.holds unit step above with
  | false, false => none
  | true, false => some below
  | false, true => some above
  | true, true =>
    let gapBelow := i.middle * unit - below * step
    let gapAbove := above * step - i.middle * unit
    if gapBelow < gapAbove then some below
    else if gapAbove < gapBelow then some above
    else match tie with
      | .up => some above
      | .even => some (if below % 2 == 0 then below else above)

end Interval

/-- The grids of binary64 numbers, from the coarsest to the finest: `10 ^ 309` down to
`10 ^ (-345)`. -/
def grids : List Int := (List.range 655).map fun k : Nat => 309 - (k : Int)

/-- The shortest decimal that identifies the positive number `mantissa * 2 ^ exponent`, and the
nearest one of those. -/
def shortest (tie : Tie) (mantissa : Nat) (exponent : Int) : Decimal :=
  let i := Interval.around mantissa exponent
  (grids.findSome? fun g => (i.pointOn tie g).map fun n => ⟨n, g⟩).getD ⟨0, 0⟩

end ChatBot.Binary64
