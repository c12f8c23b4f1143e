import ChatBot.Text.Digit
import ChatBot.Yaml.Scalar

/-!
Scalars of YAML over indented lines, behind a bar or an angle bracket.

* `BlockHeader`: what stands behind the bar: how the text ends, and how far its lines are indented;
* `BlockLine`: a line, and the line breaks behind it;
* `BlockLine.join`: the text of lines, whose breaks stand for themselves or are folded;
* `blockScalar?`: the text of a scalar, and the place behind it.
-/

namespace ChatBot.Yaml

/-! ### Headers -/

/-- Which of the line breaks behind the last line belong to the text. -/
inductive Chomping where
  /-- None. -/
  | strip
  /-- The first. -/
  | clip
  /-- All of them. -/
  | keep
  deriving DecidableEq, Repr

/-- What stands behind the bar of a scalar: which line breaks at its end belong to the text, and how
much further than what is around them its lines are indented, if that is told. -/
structure BlockHeader where
  chomping : Chomping := .clip
  indent : Option Nat := none
  deriving DecidableEq, Repr

namespace BlockHeader

/-- The chomping that a sign stands for. -/
def chompingOf? (c : Char) : Option Chomping :=
  if c = '+' then some .keep else if c = '-' then some .strip else none

/-- The header that a sign and a digit in either order make up, and what is behind it. The digit is
not zero. -/
def read? (cs : List Char) : Option (BlockHeader × List Char) :=
  let sign? := fun (cs : List Char) => cs.head?.bind chompingOf?
  let digit? := fun (cs : List Char) => cs.head?.filter Text.isDigit
  let indentOf? := fun (d : Char) => if d = '0' then none else some (Text.digitValue d)
  match sign? cs, digit? cs with
  | some chomping, _ =>
    match digit? (cs.drop 1) with
    | some d => (indentOf? d).map fun n => (⟨chomping, some n⟩, cs.drop 2)
    | none => some (⟨chomping, none⟩, cs.drop 1)
  | none, some d =>
    match sign? (cs.drop 1) with
    | some chomping => (indentOf? d).map fun n => (⟨chomping, some n⟩, cs.drop 2)
    | none => (indentOf? d).map fun n => (⟨.clip, some n⟩, cs.drop 1)
  | none, none => some (⟨.clip, none⟩, cs)

end BlockHeader

/-! ### Lines -/

/-- A line that is not blank: its text, the line break behind it, unless the whole text ends there,
and those of the blank lines behind it. -/
structure BlockLine where
  text : List Char
  ending : Option Char
  gap : List Char

namespace BlockLine

/-- The text of the line starts with a blank. -/
def startsBlank (l : BlockLine) : Bool := l.text.head?.any isBlank

/-- What is between two lines. Where lines are folded, a line feed does not count between two lines
that do not start with a blank; if it is the only one, it stands for a blank. -/
def between (folds : Bool) (first second : BlockLine) : List Char :=
  if folds && first.ending == some '\n' && !first.startsBlank && !second.startsBlank then
    if first.gap.isEmpty then [' '] else first.gap
  else first.ending.toList ++ first.gap

/-- The text of lines without what is behind the last one. -/
def join (folds : Bool) : List BlockLine → List Char
  | [] => []
  | [l] => l.text
  | l :: m :: rest => l.text ++ between folds l m ++ join folds (m :: rest)

end BlockLine

/-- The breaks of blank lines, the widest column that their blanks reach, and the place behind them
and behind the blanks of the next line, of which at most `indent` are taken. While the indent is not
known, it is zero, and all of them are. A tab must not stand among these blanks. -/
def blankLines? (indent widest : Nat) (breaks : List Char) (p : Place) :
    List Char → Option (List Char × Nat × Cursor)
  | [] => some (breaks, max widest p.column, ⟨p, []⟩)
  | c :: rest =>
    if (indent = 0 || p.column < indent) && c == ' ' then
      blankLines? indent widest breaks (p.after c) rest
    else if (indent = 0 || p.column < indent) && c == '\t' then none
    else if isBreak c then
      blankLines? indent (max widest p.column) (breaks ++ [c]) (p.after c) rest
    else some (breaks, max widest p.column, ⟨p, c :: rest⟩)

/-- The lines from a place on that are indented by `indent`, and the place behind them. Every line
uses up one of the steps. -/
def blockLines? (steps indent : Nat) (c : Cursor) : Option (List BlockLine × Cursor) :=
  match steps with
  | 0 => none
  | steps + 1 =>
    if c.place.column ≠ indent || c.rest.isEmpty then some ([], c)
    else do
      let (text, behind) := c.span fun d => !isBreak d
      let next := behind.advance 1
      let (gap, _, after) ← blankLines? indent 0 [] next.place next.rest
      let (others, after) ← blockLines? steps indent after
      return (⟨text, behind.head?, gap⟩ :: others, after)

/-- The text of lines behind the breaks of blank lines. -/
def blockText (folds : Bool) (chomping : Chomping) (blanks : List Char) (ls : List BlockLine) :
    List Char :=
  match ls.getLast? with
  | none => if chomping = .keep then blanks else []
  | some last =>
    blanks ++ BlockLine.join folds ls ++
      match chomping with
      | .strip => []
      | .clip => last.ending.toList
      | .keep => last.ending.toList ++ last.gap

/-- A scalar over indented lines, whose bar or angle bracket is next, and the place behind it. What
is around it is indented so that `least` is the first column for its lines; unless the header tells
the indent, the first line that is not blank gives it. -/
def blockScalar? (folds : Bool) (least : Nat) (c : Cursor) : Option (List Char × Cursor) := do
  let (header, rest) ← BlockHeader.read? (c.rest.drop 1)
  let start ← (c.advance (c.rest.length - rest.length)).nextLine?
  let told := header.indent.map fun n => if least = 0 then n else least - 1 + n
  let (blanks, widest, first) ← blankLines? (told.getD 0) 0 [] start.place start.rest
  let indent := told.getD (max widest (max least 1))
  let (ls, after) ← blockLines? (first.rest.length + 1) indent first
  return (blockText folds header.chomping blanks ls, after)

end ChatBot.Yaml
