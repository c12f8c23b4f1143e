import ChatBot.Binary64.Basic
import ChatBot.Text.Digit
import ChatBot.Text.LetterCase

/-!
Numbers read from text.

* `ofDecimal`: the binary64 number nearest to a decimal;
* `ofText?`: a whole text as a binary64 number;
* `int64OfText?`: a whole text as a 64 bit integer.
-/

namespace ChatBot.Text

/-- A whole text as a 64 bit integer: an optional sign and decimal digits. -/
def int64OfText? (cs : List Char) : Option Int :=
  let (negative, ds) := takeSign cs
  if ds.isEmpty || !ds.all isDigit then none
  else
    let n : Int := numberOfDigits ds
    let value := if negative then -n else n
    if Binary64.int64Min ≤ value && value ≤ Binary64.int64Max then some value else none

end ChatBot.Text

namespace ChatBot.Binary64

open ChatBot.Text

-- Powers are those of the core library, whatever else is imported.
attribute [local instance (high)] instPowNat

/-- The number nearest to `significand * 10 ^ exponent`. Decimals far outside of the range of the
numbers are settled by their count of digits alone. -/
def ofDecimal (negative : Bool) (significand : Nat) (exponent : Int) : Float :=
  let magnitude : Int := significand.log2 + 3 * exponent
  if significand = 0 then ofMagnitude negative 0
  else if 0 ≤ exponent && 1100 < magnitude then infinity negative
  else if exponent < 0 && (significand.log2 : Int) + 1 + 3 * exponent < -1100 then
    ofMagnitude negative 0
  else if 0 ≤ exponent then nearest negative (significand * 10 ^ exponent.toNat) 1
  else nearest negative significand (10 ^ (-exponent).toNat)

/-- The exponent part of a decimal number: the mark, an optional sign and digits. An absent one is
zero; none stands for anything else. -/
def exponentOfText? : List Char → Option Int
  | [] => some 0
  | c :: cs =>
    if c = 'e' || c = 'E' then
      let (negative, ds) := takeSign cs
      if ds.isEmpty || !ds.all isDigit then none
      else some (if negative then -(numberOfDigits ds : Int) else numberOfDigits ds)
    else none

/-- A decimal number without sign: digits with at most one point among them, at least one digit,
and an optional exponent. -/
def unsignedOfText? (negative : Bool) (cs : List Char) : Option Float :=
  let whole := cs.takeWhile isDigit
  let afterWhole := cs.dropWhile isDigit
  let (fraction, rest) := match afterWhole with
    | '.' :: ds => (ds.takeWhile isDigit, ds.dropWhile isDigit)
    | _ => ([], afterWhole)
  if whole.isEmpty && fraction.isEmpty then none
  else (exponentOfText? rest).map fun e =>
    ofDecimal negative (numberOfDigits (whole ++ fraction)) (e - fraction.length)

/-- A whole text as a number: an optional sign, then a decimal number or a word for an infinity or
for no number, in any case of letters. -/
def ofText? (cs : List Char) : Option Float :=
  let (negative, body) := takeSign cs
  let word := String.ofList (body.map foldAscii)
  if word == "inf" || word == "infinity" then some (infinity negative)
  else if word == "nan" then some nan
  else unsignedOfText? negative body

end ChatBot.Binary64

namespace String

/-- The text as a binary64 number. -/
def toFloat? (s : String) : Option Float := ChatBot.Binary64.ofText? s.toList

/-- The text as a 64 bit integer. -/
def toInt64? (s : String) : Option Int := ChatBot.Text.int64OfText? s.toList

end String
