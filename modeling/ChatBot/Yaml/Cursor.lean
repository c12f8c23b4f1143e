/-!
Places in a YAML text.

* `isBlank`, `isBreak`: the characters between the words and lines of a text;
* `Place`: how far into a text something is, and its line and column;
* `Cursor`: what is left of a text, and where it starts;
* `Cursor.skip`: the place behind blanks, comments and line breaks;
* `Cursor.nextLine?`: the start of the next line, if no more than a comment is left of this one.
-/

namespace ChatBot.Yaml

/-! ### Characters -/

/-- Blanks within a line. -/
def isBlank (c : Char) : Bool := c == ' ' || c == '\t'

/-- The characters that end a line. A text whose lines end with other characters has to be brought
into this form first, by `plainBreaks`. -/
def isBreak (c : Char) : Bool := c == '\n' || c == '\u2028' || c == '\u2029'

/-- The characters of a text, where a carriage return, alone or with a line feed, and the character
for the next line are line feeds. -/
def plainBreaks : List Char → List Char
  | '\r' :: '\n' :: rest => '\n' :: plainBreaks rest
  | c :: rest => (if c = '\r' || c = '\u0085' then '\n' else c) :: plainBreaks rest
  | [] => []

/-- The mark of the byte order, which may stand at the start of a line. -/
def orderMark : Char := '\ufeff'

/-- A line break or the end of the text follows. -/
def endsLine : List Char → Bool
  | [] => true
  | c :: _ => isBreak c

/-- A blank, a line break or the end of the text follows. -/
def endsWord : List Char → Bool
  | [] => true
  | c :: _ => isBlank c || isBreak c

/-- Three dashes or three dots by themselves, which bound a document, follow. -/
def startsMarker : List Char → Bool
  | '-' :: '-' :: '-' :: rest => endsWord rest
  | '.' :: '.' :: '.' :: rest => endsWord rest
  | _ => false

/-! ### Places -/

/-- How far into a text something is: the octets and lines before it, and the characters before it
on its line. -/
structure Place where
  offset : Nat
  line : Nat
  column : Nat
  deriving DecidableEq, Repr

namespace Place

/-- The start of a text. -/
def start : Place := ⟨0, 0, 0⟩

/-- The place behind a character. -/
def after (p : Place) (c : Char) : Place :=
  let offset := p.offset + c.utf8Size
  if isBreak c then ⟨offset, p.line + 1, 0⟩ else ⟨offset, p.line, p.column + 1⟩

end Place

/-- What is left of a text, and where it starts. -/
structure Cursor where
  place : Place
  rest : List Char

namespace Cursor

/-- The start of a text. -/
def start (cs : List Char) : Cursor := ⟨.start, cs⟩

/-- The place behind some characters. -/
def advance (c : Cursor) (count : Nat) : Cursor :=
  ⟨(c.rest.take count).foldl Place.after c.place, c.rest.drop count⟩

/-- The next character. -/
def head? (c : Cursor) : Option Char := c.rest.head?

/-- The longest run of characters with a property, and the place behind it. -/
def span (c : Cursor) (p : Char → Bool) : List Char × Cursor :=
  let run := c.rest.takeWhile p
  (run, c.advance run.length)

/-- The place behind blanks, comments and line breaks, and whether a key or a dash may stand there,
as it may from the start of a line on. Here `inFlow` tells that the place is within brackets,
`fresh` that a key may stand here, and `inComment` that the place is in a comment. A tab is no
blank where a key may stand. -/
def skipFrom (inFlow fresh inComment : Bool) (p : Place) : List Char → Bool × Cursor
  | [] => (fresh, ⟨p, []⟩)
  | c :: rest =>
    if isBreak c then skipFrom inFlow (fresh || !inFlow) false (p.after c) rest
    else if inComment || c == '#' then skipFrom inFlow fresh true (p.after c) rest
    else if c == ' ' || (c == '\t' && (inFlow || !fresh)) || (c == orderMark && p.column == 0) then
      skipFrom inFlow fresh false (p.after c) rest
    else (fresh, ⟨p, c :: rest⟩)

/-- The place behind blanks, comments and line breaks, and whether a key may stand there. -/
def skip (inFlow fresh : Bool) (c : Cursor) : Bool × Cursor :=
  skipFrom inFlow fresh false c.place c.rest

/-- The place behind blanks. -/
def skipBlanks (c : Cursor) : Cursor := (c.span isBlank).2

/-- The start of the next line, where at most blanks and a comment are left of this one. -/
def nextLine? (c : Cursor) : Option Cursor :=
  let c := c.skipBlanks
  let c := if c.head? = some '#' then (c.span fun d => !isBreak d).2 else c
  if endsLine c.rest then some (c.advance 1) else none

end Cursor

end ChatBot.Yaml
