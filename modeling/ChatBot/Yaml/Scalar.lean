import ChatBot.Text.Digit
import ChatBot.Yaml.Cursor

/-!
Scalars of YAML within lines: texts without quotes, which may go on over several lines, and texts in
single or double quotes.

* `Style`: how a scalar is written;
* `Gap`: blanks and line breaks inside of a scalar, and the text they make up;
* `canStartPlain`: a text without quotes may start here;
* `plain?`: such a text, and the place behind it;
* `quoted?`: a text in quotes, and the place behind it.
-/

namespace ChatBot.Yaml

/-- How a scalar is written. -/
inductive Style where
  /-- Without quotes. -/
  | plain
  /-- In single or double quotes. -/
  | quoted
  /-- Over indented lines, whose breaks stand for themselves. -/
  | literal
  /-- Over indented lines, of which those next to each other are joined. -/
  | folded
  deriving DecidableEq, Repr

/-! ### Gaps -/

/-- Blanks and line breaks behind a character of a scalar. -/
inductive Gap where
  /-- There are none. -/
  | closed
  /-- There are blanks. -/
  | blanks (cs : List Char)
  /-- There are line breaks. The first one is missing where a backslash has taken it away. -/
  | folded (first : Option Char) (others : List Char)

namespace Gap

/-- One more blank. Blanks at the start of a line do not count. -/
def addBlank (c : Char) : Gap → Gap
  | .closed => .blanks [c]
  | .blanks cs => .blanks (cs ++ [c])
  | .folded first others => .folded first others

/-- One more line break. Blanks in front of it do not count. -/
def addBreak (c : Char) : Gap → Gap
  | .folded first others => .folded first (others ++ [c])
  | _ => .folded (some c) []

/-- The text of a gap between two characters. Of line feeds the first one does not count, and one by
itself stands for a blank. -/
def text : Gap → List Char
  | .closed => []
  | .blanks cs => cs
  | .folded (some '\n') [] => [' ']
  | .folded (some '\n') others => others
  | .folded first others => first.toList ++ others

/-- There is no gap. -/
def isClosed : Gap → Bool
  | .closed => true
  | _ => false

/-- There is a line break in the gap. -/
def isFolded : Gap → Bool
  | .folded _ _ => true
  | _ => false

end Gap

/-! ### Plain scalars -/

/-- Characters with a meaning of their own, which start no plain scalar. -/
def indicators : List Char :=
  ['-', '?', ':', ',', '[', ']', '\x7b', '\x7d', '#', '&', '*', '!', '|', '>', '\'', '"', '%', '@',
    '\x60']

/-- Characters that end a plain scalar within brackets. -/
def flowIndicators : List Char := [',', '[', ']', '\x7b', '\x7d']

/-- A plain scalar may start with these characters: no indicator, except for one that is followed by
something else than a blank. -/
def canStartPlain (inFlow : Bool) : List Char → Bool
  | [] => false
  | c :: rest =>
    !endsWord (c :: rest) &&
      (!indicators.contains c || (c == '-' && !endsWord rest) ||
        (!inFlow && (c == '?' || c == ':') && !endsWord rest))

/-- A colon that may not stand within a plain scalar in brackets. -/
def isStrayColon (c : Char) (rest : List Char) : Bool :=
  c == ':' && rest.head?.any fun d => d == '?' || flowIndicators.contains d

/-- The scalar ends in front of these characters. -/
def endsPlain (inFlow : Bool) (c : Char) (rest : List Char) : Bool :=
  (c == ':' && endsWord rest) || (inFlow && flowIndicators.contains c)

/-- The scalar ends with the gap before these characters: a comment follows, or the document ends,
or the line is not indented far enough. -/
def endsWithGap (inFlow : Bool) (indent column : Nat) (cs : List Char) : Bool :=
  cs.head? == some '#' || (column == 0 && startsMarker cs) || (!inFlow && column < indent)

/-- What is left of a plain scalar behind a gap, whether it ends with a line break, and the place
behind it. -/
def plainFrom? (inFlow : Bool) (indent : Nat) (gap : Gap) (p : Place) :
    List Char → Option (List Char × Bool × Cursor)
  | [] => some ([], gap.isFolded, ⟨p, []⟩)
  | c :: rest =>
    if isBlank c then
      if gap.isFolded && c == '\t' && p.column < indent then none
      else plainFrom? inFlow indent (gap.addBlank c) (p.after c) rest
    else if isBreak c then plainFrom? inFlow indent (gap.addBreak c) (p.after c) rest
    else if !gap.isClosed && endsWithGap inFlow indent p.column (c :: rest) then
      some ([], gap.isFolded, ⟨p, c :: rest⟩)
    else if inFlow && isStrayColon c rest then none
    else if endsPlain inFlow c rest then some ([], gap.isFolded, ⟨p, c :: rest⟩)
    else
      (plainFrom? inFlow indent .closed (p.after c) rest).map fun (text, after) =>
        (gap.text ++ c :: text, after)

/-- A plain scalar, whether line breaks follow it, and the place behind it and them. Its lines but
the first have to be indented as far as `indent`. -/
def plain? (inFlow : Bool) (indent : Nat) (c : Cursor) : Option (List Char × Bool × Cursor) :=
  plainFrom? inFlow indent .closed c.place c.rest

/-! ### Scalars in quotes -/

/-- The characters that stand for others behind a backslash. -/
def shortEscapes : List (Char × Char) :=
  [('0', '\x00'), ('a', '\x07'), ('b', '\x08'), ('t', '\t'), ('\t', '\t'), ('n', '\n'),
   ('v', '\x0b'), ('f', '\x0c'), ('r', '\r'), ('e', '\x1b'), (' ', ' '), ('"', '"'), ('/', '/'),
   ('\\', '\\'), ('N', '\u0085'), ('_', '\u00a0'), ('L', '\u2028'), ('P', '\u2029')]

/-- The number of hexadecimal digits behind a backslash and a letter. -/
def escapeWidths : List (Char × Nat) := [('x', 2), ('u', 4), ('U', 8)]

/-- The character of a code point. -/
def charOf? (n : Nat) : Option Char := if n.isValidChar then some (Char.ofNat n) else none

/-- The character that stands behind a backslash, and how many characters were used for it. -/
def escaped? : List Char → Option (Char × Nat)
  | [] => none
  | c :: rest =>
    match shortEscapes.lookup c with
    | some d => some (d, 1)
    | none => do
      let width ← escapeWidths.lookup c
      let ds := rest.take width
      if ds.length < width then none
      else return (← charOf? (← Text.numberIn? 16 ds), width + 1)

/-- What is left of a scalar in quotes behind a gap, and the place behind the closing quote. The
next `taken` characters belong to what came before. -/
def quotedFrom? (quote : Char) (gap : Gap) (taken : Nat) (p : Place) :
    List Char → Option (List Char × Cursor)
  | [] => none
  | c :: rest =>
    let goOn := fun (gap : Gap) (taken : Nat) => quotedFrom? quote gap taken (p.after c) rest
    let add := fun (text : List Char) (taken : Nat) =>
      (goOn .closed taken).map fun (others, after) => (gap.text ++ text ++ others, after)
    if 0 < taken then goOn gap (taken - 1)
    else if p.column = 0 && startsMarker (c :: rest) then none
    else if isBlank c then goOn (gap.addBlank c) 0
    else if isBreak c then goOn (gap.addBreak c) 0
    else if c = quote then
      if quote = '\'' && rest.head? = some quote then add [quote] 1
      else some (gap.text, ⟨p.after c, rest⟩)
    else if quote = '"' && c = '\\' then
      if rest.head?.any isBreak then
        (goOn (.folded none []) 1).map fun (others, after) => (gap.text ++ others, after)
      else
        match escaped? rest with
        | some (d, used) => add [d] used
        | none => none
    else add [c] 0

/-- A scalar in quotes, of which the first is next. -/
def quoted? (quote : Char) (c : Cursor) : Option (List Char × Cursor) :=
  let c := c.advance 1
  quotedFrom? quote .closed 0 c.place c.rest

end ChatBot.Yaml
