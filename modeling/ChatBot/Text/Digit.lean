/-!
Digits, and the numbers that runs of them stand for.

* `isDigit`, `digitValue`: the decimal digits;
* `numberOfDigits`: the number of a run of decimal digits;
* `digitIn?`: a digit in a base of up to sixteen;
* `takeSign`: an optional sign in front of a number.
-/

namespace ChatBot.Text

/-- The digits `0` to `9`. -/
def isDigit (c : Char) : Bool := '0' ≤ c && c ≤ '9'

/-- The value of a decimal digit. -/
def digitValue (c : Char) : Nat := c.toNat - '0'.toNat

/-- The number that a run of decimal digits stands for. -/
def numberOfDigits (ds : List Char) : Nat := ds.foldl (fun n c => 10 * n + digitValue c) 0

/-- The value of a digit in a base of up to sixteen, where letters of either case follow nine. -/
def digitIn? (base : Nat) (c : Char) : Option Nat :=
  let value? :=
    if isDigit c then some (digitValue c)
    else if 'a' ≤ c && c ≤ 'f' then some (c.toNat - 'a'.toNat + 10)
    else if 'A' ≤ c && c ≤ 'F' then some (c.toNat - 'A'.toNat + 10)
    else none
  value?.filter (· < base)

/-- The number of a run of digits in a base. -/
def numberIn? (base : Nat) (ds : List Char) : Option Nat :=
  (ds.mapM (digitIn? base)).map fun values => values.foldl (fun n v => base * n + v) 0

/-- An optional sign: whether it is a minus, and what follows. -/
def takeSign : List Char → Bool × List Char
  | '-' :: cs => (true, cs)
  | '+' :: cs => (false, cs)
  | cs => (false, cs)

end ChatBot.Text
