import ChatBot.Text.Digit
import ChatBot.Yaml.Cursor

/-!
What may stand in front of a YAML value or of a whole document.

* `anchor?`: the name of an anchor;
* `Tag`: the kind of a value, by a handle and the rest of its name;
* `Directive`: what a line that starts with a percent sign says about a document.
-/

namespace ChatBot.Yaml

/-- The characters of names. -/
def isNameChar (c : Char) : Bool :=
  Text.isDigit c || ('a' ≤ c && c ≤ 'z') || ('A' ≤ c && c ≤ 'Z') || c == '_' || c == '-'

/-! ### Anchors -/

/-- The characters but blanks that may follow the name of an anchor. -/
def anchorEnds : List Char := ['?', ':', ',', ']', '\x7d', '%', '@', '\x60']

/-- The name of an anchor behind the next character, and the place behind it. -/
def anchor? (c : Cursor) : Option (String × Cursor) :=
  let (name, after) := (c.advance 1).span isNameChar
  if !name.isEmpty && (endsWord after.rest || after.head?.any anchorEnds.contains) then
    some (String.ofList name, after)
  else none

/-! ### Tags -/

/-- A tag as it is written. The handle names a name space, and is empty if the suffix is the whole
name. -/
structure Tag where
  handle : String
  suffix : String
  deriving DecidableEq, Repr

/-- The characters of tags besides those of names. -/
def tagChars : List Char :=
  [';', '/', '?', ':', '@', '&', '=', '+', '$', '.', '%', '!', '~', '*', '\'', '(', ')']

/-- The characters of tags that are indicators elsewhere. -/
def tagIndicators : List Char := [',', '[', ']']

/-- The length of the encoded form of a character, by its first octet. -/
def encodedLength? (octet : Nat) : Option Nat :=
  if octet < 0x80 then some 1
  else if 0xC0 ≤ octet && octet < 0xE0 then some 2
  else if 0xE0 ≤ octet && octet < 0xF0 then some 3
  else if 0xF0 ≤ octet && octet < 0xF8 then some 4
  else none

/-- The octets of percent signs and two hexadecimal digits each. -/
def octets? : Nat → List Char → Option (List UInt8)
  | 0, _ => some []
  | n + 1, '%' :: c :: d :: rest => do
    let octet ← Text.numberIn? 16 [c, d]
    return UInt8.ofNat octet :: (← octets? n rest)
  | _ + 1, _ => none

/-- The character of some octets. -/
def decoded (octets : List UInt8) : List Char :=
  match String.fromUTF8? ⟨octets.toArray⟩ with
  | some s => s.toList
  | none => ['\ufffd']

/-- The text that characters of a tag stand for. Those behind percent signs are encoded; the next
`taken` characters belong to what came before. -/
def tagText? (taken : Nat) : List Char → Option (List Char)
  | [] => some []
  | c :: rest =>
    if 0 < taken then tagText? (taken - 1) rest
    else if c = '%' then do
      let first ← octets? 1 (c :: rest)
      let width ← encodedLength? (first.headD 0).toNat
      let octets ← octets? width (c :: rest)
      if octets.tail.all fun o => 0x80 ≤ o && o < 0xC0 then
        return decoded octets ++ (← tagText? (3 * width - 1) rest)
      else none
    else (tagText? 0 rest).map (c :: ·)

/-- A run of the characters of tags, and the place behind it. -/
def tagRun? (isWhole : Bool) (c : Cursor) : Option (List Char × Cursor) :=
  let (run, after) := c.span fun d =>
    isNameChar d || tagChars.contains d || (isWhole && tagIndicators.contains d)
  (tagText? 0 run).map fun text => (text, after)

/-- An exclamation mark, a name, and another exclamation mark, if there is one. -/
def handle (c : Cursor) : List Char × Cursor :=
  let (name, after) := (c.advance 1).span isNameChar
  if after.head? = some '!' then ('!' :: name ++ ['!'], after.advance 1) else ('!' :: name, after)

/-- A handle has an exclamation mark at either end. -/
def isHandle (cs : List Char) : Bool := 2 ≤ cs.length && cs.getLast? == some '!'

namespace Tag

/-- The parts of a tag whose exclamation mark is next, and the place behind it. -/
def parts? (c : Cursor) : Option (Tag × Cursor) :=
  if c.rest[1]? = some '<' then do
    let (suffix, after) ← tagRun? true (c.advance 2)
    if suffix.isEmpty || after.head? ≠ some '>' then none
    else return (⟨"", String.ofList suffix⟩, after.advance 1)
  else do
    let (name, behind) := Yaml.handle c
    let (suffix, after) ← tagRun? false behind
    if isHandle name then
      if suffix.isEmpty then none
      else return (⟨String.ofList name, String.ofList suffix⟩, after)
    else
      let suffix := name.drop 1 ++ suffix
      if suffix.isEmpty then return (⟨"", "!"⟩, after)
      else return (⟨"!", String.ofList suffix⟩, after)

/-- A tag whose exclamation mark is next, and the place behind it. A blank follows,
or within brackets a comma. -/
def read? (inFlow : Bool) (c : Cursor) : Option (Tag × Cursor) := do
  let (tag, after) ← parts? c
  if endsWord after.rest || (inFlow && after.head? == some ',') then return (tag, after) else none

/-- The tag by itself asks for nothing. -/
def plain : String := "!"

/-- The start of the names of the common tags. -/
def commonPart : String := "tag:yaml.org,2002:"

/-- The tag of nothing. -/
def null : String := commonPart ++ "null"

/-- The tag of whole numbers. -/
def int : String := commonPart ++ "int"

/-- The handles that need no directive, and what they stand for. -/
def defaultHandles : List (String × String) := [("!", "!"), ("!!", commonPart)]

/-- The full name of a tag, where some handles stand for others than they do by default. -/
def name? (handles : List (String × String)) (t : Tag) : Option String :=
  if t.handle.isEmpty then some t.suffix
  else ((handles ++ defaultHandles).lookup t.handle).map (· ++ t.suffix)

end Tag

/-! ### Directives -/

/-- What a line says about a document: the version that it is written in, or what a handle of tags
stands for. -/
inductive Directive where
  | version (major minor : Nat)
  | handle (name meaning : String)
  deriving DecidableEq, Repr

namespace Directive

/-- A number of up to nine digits, and the place behind it. -/
def number? (c : Cursor) : Option (Nat × Cursor) :=
  let (ds, after) := c.span Text.isDigit
  if ds.isEmpty || 9 < ds.length then none else some (Text.numberOfDigits ds, after)

/-- What a directive of the given name says, and the place behind it. -/
def value? (name : List Char) (c : Cursor) : Option (Directive × Cursor) :=
  let c := c.skipBlanks
  if name = ['Y', 'A', 'M', 'L'] then do
    let (major, dot) ← number? c
    if dot.head? ≠ some '.' then none
    else
      let (minor, after) ← number? (dot.advance 1)
      return (.version major minor, after)
  else if name = ['T', 'A', 'G'] then
    if c.head? ≠ some '!' then none
    else do
      let (name, behind) := Yaml.handle c
      if !isHandle name && name ≠ ['!'] || !behind.head?.any isBlank then none
      else
        let (meaning, after) ← tagRun? true behind.skipBlanks
        if meaning.isEmpty || !endsWord after.rest then none
        else return (.handle (String.ofList name) (String.ofList meaning), after)
  else none

/-- A directive whose percent sign is next, and the start of the line behind it. -/
def read? (c : Cursor) : Option (Directive × Cursor) := do
  let (name, behind) := (c.advance 1).span isNameChar
  if name.isEmpty || !endsWord behind.rest then none
  else
    let (directive, after) ← value? name behind
    return (directive, ← after.nextLine?)

/-- The version of a document can be read. -/
def isSupported : Directive → Bool
  | .version major minor => major == 1 && (minor == 1 || minor == 2)
  | .handle _ _ => true

/-- Two directives say something about the same. -/
def conflicts : Directive → Directive → Bool
  | .version _ _, .version _ _ => true
  | .handle name _, .handle other _ => name == other
  | _, _ => false

/-- The handles that directives give a meaning to. -/
def handles (ds : List Directive) : List (String × String) :=
  ds.filterMap fun
    | .handle name meaning => some (name, meaning)
    | .version _ _ => none

end Directive

end ChatBot.Yaml
