import ChatBot.Text.CodePoints

/-!
White space in text: trimming, and cutting a text into its words.

* `isBlank`: the 25 code points of the property;
* `trim`: no blank at either end is left;
* `words`: the maximal runs without a blank, in order;
* `breakAtBlank`: what stands before and after the first blank.

All functions work on lists of characters; those on `String` are the same functions on its
characters.
-/

namespace ChatBot.Text

/-- The code points of the property `White_Space`. -/
def blankRanges : Ranges :=
  [(0x9, 0xD), (0x20, 0x20), (0x85, 0x85), (0xA0, 0xA0), (0x1680, 0x1680), (0x2000, 0x200A),
   (0x2028, 0x2029), (0x202F, 0x202F), (0x205F, 0x205F), (0x3000, 0x3000)]

/-- White space. -/
def isBlank (c : Char) : Bool := blankRanges.contains c.toNat

/-- Everything but white space. -/
def isSolid (c : Char) : Bool := !isBlank c

/-- The text without the blanks at its front. -/
def trimStart (cs : List Char) : List Char := cs.dropWhile isBlank

/-- The text without the blanks at its end. -/
def trimEnd (cs : List Char) : List Char := (cs.reverse.dropWhile isBlank).reverse

/-- The text without the blanks at both ends. -/
def trim (cs : List Char) : List Char := trimEnd (trimStart cs)

/-- The maximal runs without a blank, in order. -/
def words : List Char → List (List Char)
  | [] => []
  | c :: cs =>
    if isBlank c then words cs
    else (c :: cs.takeWhile isSolid) :: words (cs.dropWhile isSolid)
termination_by cs => cs.length
decreasing_by
  · simp
  · simpa using Nat.lt_succ_of_le (List.dropWhile_sublist isSolid).length_le

/-- What stands before the first blank and after it; none if no blank occurs. -/
def breakAtBlank : List Char → Option (List Char × List Char)
  | [] => none
  | c :: cs =>
    if isBlank c then some ([], cs)
    else (breakAtBlank cs).map fun (before, after) => (c :: before, after)

end ChatBot.Text

namespace String

/-- The text without the blanks at both ends. -/
def trimBlanks (s : String) : String := String.ofList (ChatBot.Text.trim s.toList)

/-- The maximal runs without a blank, in order. -/
def words (s : String) : List String := (ChatBot.Text.words s.toList).map String.ofList

end String
