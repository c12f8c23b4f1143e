import ChatBot.Yaml.Document

/-!
The text of YAML values.

Maps and lists are written over lines, where what belongs to a field or an item is indented by two
blanks; only a list stands in the column of its key.

* `needsQuotes`: a text that would not be read back as it is without quotes;
* `Yaml.print`: the text of a value.
-/

namespace ChatBot.Yaml

/-- Words that stand for something else than a text. -/
def reserved : List String :=
  ["~", "null", "Null", "NULL", "true", "True", "TRUE", "false", "False", "FALSE"]

/-- A colon or a comment would end the text. -/
def isBroken : List Char → Bool
  | [] => false
  | [c] => c == ':'
  | c :: d :: rest => (c == ':' && isBlank d) || (isBlank c && d == '#') || isBroken (d :: rest)

/-- A text would not be read back as a text without quotes. -/
def needsQuotes (s : String) : Bool :=
  let cs := s.toList
  !canStartPlain false cs || cs.getLast?.any isBlank || isBroken cs || reserved.contains s ||
    cs.all fun c => Text.isDigit c || ['.', '-', '+', 'e', 'E', '_', 'x', 'o'].contains c

/-- A text in single quotes. -/
def quote (s : String) : String :=
  String.ofList ('\'' :: s.toList.flatMap (fun c => if c = '\'' then ['\'', '\''] else [c]) ++
    ['\''])

/-- A text as a scalar. -/
def ofText (s : String) : Yaml := .scalar none .quoted s

/-- A natural number as a scalar. -/
def ofNat (n : Nat) : Yaml := .scalar none .plain (toString n)

/-- Nothing as a scalar. -/
def null : Yaml := .scalar none .plain "null"

/-- A scalar on one line. A tag is written in full. -/
def scalarText (tag : Option String) (style : Style) (text : String) : String :=
  let text := if style != .plain && needsQuotes text then quote text else text
  match tag with
  | some name => "!<" ++ name ++ "> " ++ text
  | none => text

/-- Lines behind two blanks. -/
def indented (ls : List String) : List String := ls.map ("  " ++ ·)

/-- The first line behind a dash, and the others below it. -/
def itemLines : List String → List String
  | [] => ["-"]
  | first :: rest => ("- " ++ first) :: indented rest

mutual

/-- The lines of a value. -/
def lines : Yaml → List String
  | .scalar tag style text => [scalarText tag style text]
  | .list [] => ["[]"]
  | .map [] => ["\x7b\x7d"]
  | .list items => linesOfItems items
  | .map fields => linesOfFields fields

/-- The lines of the items of a list. -/
def linesOfItems : List Yaml → List String
  | [] => []
  | item :: rest => itemLines (lines item) ++ linesOfItems rest

/-- The lines of the fields of a map. -/
def linesOfFields : List (Yaml × Yaml) → List String
  | [] => []
  | (key, value) :: rest =>
    let name := " ".intercalate (lines key) ++ ":"
    let own := match value with
      | .map (_ :: _) => name :: indented (lines value)
      | .list (_ :: _) => name :: lines value
      | _ => [name ++ " " ++ " ".intercalate (lines value)]
    own ++ linesOfFields rest

end

/-- The text of a value. -/
def print (value : Yaml) : String := String.join ((lines value).map (· ++ "\n"))

end ChatBot.Yaml
