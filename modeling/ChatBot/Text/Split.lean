/-!
Texts cut at a character.

* `split`: the parts between the occurrences of a character;
* `lines`: the lines of a text, where the last one need not end.
-/

namespace ChatBot.Text

/-- The parts of a text between the occurrences of a character. There is one more of them than
there are occurrences. -/
def split (mark : Char) : List Char → List (List Char)
  | [] => [[]]
  | c :: cs =>
    if c = mark then [] :: split mark cs
    else
      match split mark cs with
      | part :: parts => (c :: part) :: parts
      | [] => [[c]]

/-- The lines of a text. The last one need not end. -/
def lines (cs : List Char) : List (List Char) :=
  let parts := split '\n' cs
  if parts.getLast? = some [] then parts.dropLast else parts

end ChatBot.Text
