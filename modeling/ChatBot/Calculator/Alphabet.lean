import ChatBot.Text.LetterCase

/-!
Free text reduced to what the calculator understands.

A run of letters is kept if it is one of the calculator's words, in any case, and dropped as a whole
otherwise. Of the other characters some stand for an operator, those of the alphabet are kept and
all else is dropped.

* `sanitize`: the reduced text;
* `isCanonical`: the characters that a reduced text may have.
-/

namespace ChatBot.Calculator

open ChatBot.Text

/-- The characters besides letters that are kept. -/
def allowed : List Char := "0123456789.+-*/%()".toList

/-- The words of the calculator in lower case, and how each is spelled in a reduced text. -/
def vocabulary : List (String × String) :=
  [("pi", "pi"), ("π", "pi"), ("e", "e"), ("sin", "sin"), ("cos", "cos"), ("tan", "tan")]

/-- The characters that stand for an operator. -/
def operatorSigns : List (Char × String) := [('^', "**"), ('×', "*"), ('÷', "/")]

/-- How a run of letters is spelled in a reduced text: nothing, if it is no word of the
calculator. -/
def spelling (letters : List Char) : List Char :=
  match vocabulary.lookup (String.ofList (lowercase letters)) with
  | some word => word.toList
  | none => []

/-- What becomes of a character that is no letter. -/
def replacement (c : Char) : List Char :=
  match operatorSigns.lookup c with
  | some operator => operator.toList
  | none => if allowed.contains c then [c] else []

/-- Dropping from the front makes no list longer. -/
theorem length_afterLetters_lt (c : Char) (cs : List Char) :
    (cs.dropWhile isAlphabetic).length < (c :: cs).length := by
  have : (cs.dropWhile isAlphabetic).length ≤ cs.length :=
    (List.dropWhile_sublist isAlphabetic).length_le
  simpa using Nat.lt_succ_of_le this

/-- The reduced text. -/
def sanitize : List Char → List Char
  | [] => []
  | c :: cs =>
    if isAlphabetic c then
      spelling (c :: cs.takeWhile isAlphabetic) ++ sanitize (cs.dropWhile isAlphabetic)
    else replacement c ++ sanitize cs
termination_by cs => cs.length
decreasing_by
  · exact length_afterLetters_lt c cs
  · simp

/-- The characters of reduced texts: the alphabet, and the letters of the words. -/
def isCanonical (c : Char) : Bool :=
  allowed.contains c || vocabulary.any fun (_, word) => word.toList.contains c

end ChatBot.Calculator
