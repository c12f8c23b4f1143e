import ChatBot.Binary64.Layout

/-!
Numbers for readers.

* `withCommas`: an integer with a comma between groups of three digits;
* `decimalText`: a binary64 number with at least one decimal.
-/

namespace ChatBot.Text

/-- Digits with a comma in front of each one that has a multiple of three digits from it on, the
first digit apart. -/
def groupDigits : List Char → List Char
  | [] => []
  | c :: cs =>
      c :: (if !cs.isEmpty && cs.length % 3 == 0 then ',' :: groupDigits cs else groupDigits cs)

/-- An integer with commas. -/
def withCommas (n : Int) : List Char :=
  (if n < 0 then ['-'] else []) ++ groupDigits (Binary64.digits n.natAbs)

/-- Whole numbers below this one are written with `.0`. -/
def wholeBound : Float := 1e16

/-- A binary64 number with at least one decimal, unless it is very large. -/
def decimalText (x : Float) : String :=
  let layout := Binary64.Layout.plain
  String.ofList (Binary64.Layout.write
    (if Binary64.isWhole x && x.abs < wholeBound then { layout with keepsPoint := true }
      else layout) x)

end ChatBot.Text
