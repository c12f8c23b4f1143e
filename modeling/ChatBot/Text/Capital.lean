import ChatBot.Text.Blank
import ChatBot.Text.LetterCase

/-!
Names in capitals.

* `capitalize`: the first character in upper case and all others in lower case, one by one;
* `titleCase`: the words of a text, each capitalized, with one blank between them;
* `fieldTitle`: the words of a key in camel case as a heading.
-/

namespace ChatBot.Text

/-- The first character in upper case, and every other in lower case by itself. -/
def capitalize : List Char → List Char
  | [] => []
  | c :: cs => toUpper c ++ cs.flatMap toLower

/-- The words of a text, capitalized, with one blank between them. -/
def titleCase (cs : List Char) : List Char := [' '].intercalate ((words cs).map capitalize)

/-- A text with every occurrence of a pattern replaced, from left to right. The pattern is not
empty. -/
def replaceAll (first : Char) (others replacement : List Char) : List Char → List Char
  | [] => []
  | c :: cs =>
    if (first :: others).isPrefixOf (c :: cs) then
      replacement ++ replaceAll first others replacement (cs.drop others.length)
    else c :: replaceAll first others replacement cs
termination_by cs => cs.length
decreasing_by
  · simp only [List.length_drop, List.length_cons]
    omega
  · simp

/-- A blank in front of every character that is no small letter. -/
def spaceOut (cs : List Char) : List Char :=
  cs.flatMap fun c => if isLowercase c then [c] else [' ', c]

/-- A word of a heading: capitalized, and an ampersand for `and`. -/
def headingWord (word : List Char) : List Char :=
  if capitalize word = "And".toList then ['&'] else capitalize word

/-- The heading of a key in camel case. The letters of `EPS` stay together. -/
def fieldTitle (key : List Char) : List Char :=
  replaceAll 'E' " P S".toList "EPS".toList
    ([' '].intercalate ((words (spaceOut key)).map headingWord))

end ChatBot.Text

namespace String

/-- The first character in upper case, and every other in lower case by itself. -/
def capitalized (s : String) : String := String.ofList (ChatBot.Text.capitalize s.toList)

/-- The words of the text, capitalized, with one blank between them. -/
def titleCase (s : String) : String := String.ofList (ChatBot.Text.titleCase s.toList)

end String
