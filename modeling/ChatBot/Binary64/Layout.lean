import ChatBot.Binary64.Shortest

/-!
Texts of binary64 numbers.

The digits of a number are those of `shortest`; a `Layout` says how they are laid out: how a tie is
settled, which numbers are written without an exponent, whether a whole number keeps `.0`, whether
an exponent carries its plus sign.

* `Layout.write`: the text of a number;
* `Layout.plain`: never an exponent, whole numbers without a point, for replies;
* `Layout.detailed`: an exponent for the very small and the very large, for error details;
* `Layout.interchange`: the same with other bounds, for numbers inside of JSON.
-/

namespace ChatBot.Binary64

/-- How the digits of a number are laid out, and how a tie between two decimals of the same length
is settled. Numbers below `10 ^ positionalFrom`, and from `10 ^ positionalBelow` on, are written
with an exponent, which may carry a plus sign. A whole number may keep `.0`. -/
structure Layout where
  tie : Tie
  positionalFrom : Option Int
  positionalBelow : Option Int
  keepsPoint : Bool
  signsExponent : Bool

/-- The decimal digits of a natural number. -/
def digits (n : Nat) : List Char := Nat.toDigits 10 n

/-- A run of zeros. -/
def zeros (n : Nat) : List Char := List.replicate n '0'

namespace Layout

/-- Digits with the point behind the first `point` of them, filled up with zeros on either side. -/
def positional (keepsPoint : Bool) (ds : List Char) (point : Int) : List Char :=
  let tail := if keepsPoint then ".0".toList else []
  if point ≤ 0 then "0.".toList ++ zeros (-point).toNat ++ ds
  else if ds.length ≤ point.toNat then ds ++ zeros (point.toNat - ds.length) ++ tail
  else ds.take point.toNat ++ '.' :: ds.drop point.toNat

/-- Digits with the point behind the first of them, and an exponent. -/
def scientific (signsExponent : Bool) (ds : List Char) (exponent : Int) : List Char :=
  let fraction := match ds.drop 1 with
    | [] => []
    | rest => '.' :: rest
  let sign := if exponent < 0 then ['-'] else if signsExponent then ['+'] else []
  ds.take 1 ++ fraction ++ 'e' :: sign ++ digits exponent.natAbs

/-- The number `0.d₁d₂… * 10 ^ point` is written without an exponent. -/
def isPositional (layout : Layout) (point : Int) : Bool :=
  layout.positionalFrom.all (fun k => decide (k < point)) &&
    layout.positionalBelow.all (fun k => decide (point ≤ k))

/-- The text of a decimal that is not zero. -/
def writeDecimal (layout : Layout) (d : Decimal) : List Char :=
  let ds := digits d.significand
  let point := ds.length + d.exponent
  if layout.isPositional point then positional layout.keepsPoint ds point
  else scientific layout.signsExponent ds (point - 1)

/-- The text of a number. -/
def write (layout : Layout) (x : Float) : List Char :=
  match parts x with
  | .notANumber => "NaN".toList
  | .infinite negative => if negative then "-inf".toList else "inf".toList
  | .finite negative m e =>
    let body :=
      if m = 0 then (if layout.keepsPoint then "0.0".toList else "0".toList)
      else layout.writeDecimal (shortest layout.tie m e)
    if negative then '-' :: body else body

/-- Replies never show an exponent, and a whole number shows no point. -/
def plain : Layout := ⟨.up, none, none, false, false⟩

/-- Error details show at least one decimal, and an exponent below `10 ^ (-4)` and from `10 ^ 16`
on. -/
def detailed : Layout := ⟨.up, some (-4), some 16, true, false⟩

/-- Numbers inside of JSON show at least one decimal, and a signed exponent below `10 ^ (-5)` and
from `10 ^ 16` on. -/
def interchange : Layout := ⟨.even, some (-5), some 16, true, true⟩

end Layout

/-- The text of a number in replies. -/
def text (x : Float) : String := String.ofList (Layout.plain.write x)

end ChatBot.Binary64
