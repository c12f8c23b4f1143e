/-!
Binary64 numbers taken apart into whole numbers.

* `parts`: sign, mantissa and exponent of a number, read off its bits;
* `nearest`: the number nearest to a quotient of natural numbers, a tie going to the even mantissa;
* `trunc`, `floor`, `remainder`: rounding to whole numbers and the remainder of a division, exact
  because they are computed on mantissas;
* `toInt64`: the whole part, kept within 64 bits.
-/

namespace ChatBot.Binary64

-- Powers are those of the core library, whatever else is imported.
attribute [local instance (high)] instPowNat

/-- What a binary64 number stands for. A finite one has the value `mantissa * 2 ^ exponent`, with
its sign. -/
inductive Parts where
  | notANumber
  | infinite (negative : Bool)
  | finite (negative : Bool) (mantissa : Nat) (exponent : Int)
  deriving DecidableEq, Repr

/-- Sign, mantissa and exponent, read off the bits. -/
def parts (x : Float) : Parts :=
  let bits := x.toBits.toNat
  let negative := decide (2 ^ (63 : Nat) ≤ bits)
  let biased : Nat := bits / 2 ^ (52 : Nat) % 2 ^ (11 : Nat)
  let fraction : Nat := bits % 2 ^ (52 : Nat)
  if biased = 2047 then
    if fraction = 0 then .infinite negative else .notANumber
  else if biased = 0 then .finite negative fraction (-1074)
  else .finite negative (2 ^ (52 : Nat) + fraction) ((biased : Int) - 1075)

/-- The number with the given sign and the given bits below the sign. -/
def ofMagnitude (negative : Bool) (bits : Nat) : Float :=
  Float.ofBits (if negative then bits + 2 ^ (63 : Nat) else bits).toUInt64

/-- The bits of an infinity, below the sign. -/
def infiniteBits : Nat := 2047 * 2 ^ (52 : Nat)

/-- An infinity. -/
def infinity (negative : Bool) : Float := ofMagnitude negative infiniteBits

/-- No number. -/
def nan : Float := Float.ofBits 0x7FF8000000000000

/-- A quotient rounded to the nearest whole number, a tie going to the even one. -/
def roundHalfEven (num den : Nat) : Nat :=
  let q := num / den
  let twice := 2 * (num % den)
  if den < twice || (twice == den && q % 2 == 1) then q + 1 else q

/-- The quotient `num / den` in units of `2 ^ e`, as a quotient of natural numbers. -/
def scaleBy (num den : Nat) (e : Int) : Nat × Nat :=
  if 0 ≤ e then (num, den * 2 ^ e.toNat) else (num * 2 ^ (-e).toNat, den)

/-- The exponent of the last place of the number nearest to `num / den`: at least `-1074`, and such
that fewer than `2 ^ 53` units of it make up the quotient. -/
def unitExponent (num den : Nat) : Int :=
  let e : Int := max ((num.log2 : Int) - den.log2 - 53) (-1074)
  let (n, d) := scaleBy num den e
  if n < d * 2 ^ (53 : Nat) then e else e + 1

/-- The number nearest to `num / den`, a tie going to the even mantissa; too large a quotient gives
an infinity. -/
def nearest (negative : Bool) (num den : Nat) : Float :=
  if num = 0 then ofMagnitude negative 0
  else
    let e := unitExponent num den
    let (n, d) := scaleBy num den e
    let bits := (e + 1074).toNat * 2 ^ (52 : Nat) + roundHalfEven n d
    ofMagnitude negative (min bits infiniteBits)

/-- The number nearest to `mantissa * 2 ^ exponent`. -/
def ofScaled (negative : Bool) (mantissa : Nat) (exponent : Int) : Float :=
  if 0 ≤ exponent then nearest negative (mantissa * 2 ^ exponent.toNat) 1
  else nearest negative mantissa (2 ^ (-exponent).toNat)

/-- The number nearest to a whole number. -/
def ofInt (n : Int) : Float := nearest (decide (n < 0)) n.natAbs 1

/-- The number is whole. Infinities are not. -/
def isWhole (x : Float) : Bool :=
  match parts x with
  | .finite _ m e => decide (0 ≤ e) || m % 2 ^ (-e).toNat == 0
  | _ => false

/-- The sign bit is set. -/
def isNegative (x : Float) : Bool :=
  match parts x with
  | .notANumber => false
  | .infinite negative => negative
  | .finite negative _ _ => negative

/-- Rounding toward zero, which keeps the sign. -/
def trunc (x : Float) : Float :=
  match parts x with
  | .finite negative m e =>
    if 0 ≤ e then x else nearest negative (m / 2 ^ (-e).toNat) 1
  | _ => x

/-- Rounding down. -/
def floor (x : Float) : Float :=
  match parts x with
  | .finite negative m e =>
    if 0 ≤ e then x
    else
      let unit := 2 ^ (-e).toNat
      let whole := m / unit
      nearest negative (if negative && m % unit != 0 then whole + 1 else whole) 1
  | _ => x

/-- The remainder of the division that rounds toward zero. It has the sign of the dividend. -/
def remainder (x y : Float) : Float :=
  match parts x, parts y with
  | .finite negative m e, .finite _ n f =>
    if n = 0 then nan
    else
      let low := min e f
      ofScaled negative ((m * 2 ^ (e - low).toNat) % (n * 2 ^ (f - low).toNat)) low
  | .finite _ _ _, .infinite _ => x
  | _, _ => nan

/-- The whole part as an integer; zero for what has none. -/
def truncToInt (x : Float) : Int :=
  match parts x with
  | .finite negative m e =>
    let whole := if 0 ≤ e then m * 2 ^ e.toNat else m / 2 ^ (-e).toNat
    if negative then -whole else whole
  | _ => 0

/-- The least 64 bit integer. -/
def int64Min : Int := -2 ^ (63 : Nat)

/-- The greatest 64 bit integer. -/
def int64Max : Int := 2 ^ (63 : Nat) - 1

/-- The whole part, kept within 64 bits: a value beyond them gives the nearer end, and what is no
number gives zero. -/
def toInt64 (x : Float) : Int :=
  match parts x with
  | .infinite negative => if negative then int64Min else int64Max
  | _ => max int64Min (min int64Max (truncToInt x))

end ChatBot.Binary64
