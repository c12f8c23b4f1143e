import ChatBot.Yaml.BlockScalar
import ChatBot.Yaml.Tag

/-!
The tokens of a YAML text.

Besides what is written, there are tokens for what the columns of a text say: where a list by dashes
or a map by keys starts and where it ends, and which values are keys. That a value is a key shows
only at the colon behind it, so its token is put in later.

* `Token`: the tokens;
* `Layout`: the tokens so far, with the open blocks and the values that may turn out to be keys;
* `Layout.read?`: one more token;
* `Token.ofText?`: the tokens of a text.
-/

namespace ChatBot.Yaml

/-- What a YAML text is made up of. -/
inductive Token where
  /-- A line about the document that follows. -/
  | directive (d : Directive)
  /-- Three dashes, in front of a document. -/
  | documentStart
  /-- Three dots, behind a document. -/
  | documentEnd
  /-- A list by dashes starts. -/
  | itemsStart
  /-- A map by keys starts. -/
  | fieldsStart
  /-- A list by dashes or a map by keys ends. -/
  | blockEnd
  /-- A list in brackets starts. -/
  | listStart
  /-- A list in brackets ends. -/
  | listEnd
  /-- A map in brackets starts. -/
  | mapStart
  /-- A map in brackets ends. -/
  | mapEnd
  /-- The dash of an item. -/
  | dash
  /-- A comma within brackets. -/
  | comma
  /-- A key follows. -/
  | key
  /-- The value of a field follows. -/
  | colon
  /-- A name for the value that follows. -/
  | anchor (name : String)
  /-- The value of a name. -/
  | alias (name : String)
  /-- The kind of the value that follows. -/
  | tag (t : Tag)
  /-- A scalar. -/
  | scalar (style : Style) (text : String)
  deriving DecidableEq, Repr

/-- A value that is a key if a colon follows, with its place and the number of tokens before it. One
that `isRequired` cannot be anything else. -/
structure KeyCandidate where
  isRequired : Bool
  position : Nat
  place : Place
  deriving DecidableEq, Repr

namespace KeyCandidate

/-- The longest key, in octets. -/
def maxLength : Nat := 1024

/-- At a place it is too late for the colon of the key: that has to stand on the same line, and not
too far away. -/
def isStaleAt (k : KeyCandidate) (p : Place) : Bool :=
  k.place.line < p.line || k.place.offset + maxLength < p.offset

/-- A value turns out to be no key, which must not be required. -/
def drop? (k? : Option KeyCandidate) : Option Unit :=
  if k?.any (·.isRequired) then none else some ()

/-- What is left of a candidate at a place. -/
def keep? (p : Place) (k? : Option KeyCandidate) : Option (Option KeyCandidate) :=
  if k?.any (·.isStaleAt p) then (drop? k?).map fun _ => none else some k?

end KeyCandidate

/-- The tokens of a part of a text so far, the last one first, with their number, and what is left
of the text. The rest depends on the columns of the open blocks, the innermost first, and on the
last value that may be a key, with those outside of each pair of brackets that is open. A key or a
dash may stand where it `isFresh`. -/
structure Layout where
  cursor : Cursor
  tokens : List Token := []
  count : Nat := 0
  blocks : List Nat := []
  candidate : Option KeyCandidate := none
  outer : List (Option KeyCandidate) := []
  isFresh : Bool := true

namespace Layout

/-- The place is within brackets. -/
def inFlow (s : Layout) : Bool := !s.outer.isEmpty

/-- The first column for what belongs to the innermost block. -/
def least (s : Layout) : Nat :=
  match s.blocks with
  | [] => 0
  | column :: _ => column + 1

/-! ### Single steps -/

/-- One more token. -/
def push (s : Layout) (t : Token) : Layout :=
  { s with tokens := t :: s.tokens, count := s.count + 1 }

/-- Tokens put in at a position, the last one first. -/
def insert (s : Layout) (position : Nat) (ts : List Token) : Layout :=
  let (behind, before) := s.tokens.splitAt (s.count - position)
  { s with tokens := behind ++ ts ++ before, count := s.count + ts.length }

/-- The characters of a token have been read. -/
def moved (s : Layout) (after : Cursor) (isFresh : Bool) : Layout :=
  { s with cursor := after, isFresh }

/-- The blocks end whose columns are not small enough. Brackets keep all of them open. -/
def closeBlocks (s : Layout) (ends : Nat → Bool) : Layout :=
  if s.inFlow then s
  else
    let closed := s.blocks.takeWhile ends
    { closed.foldl (fun s _ => s.push .blockEnd) s with blocks := s.blocks.drop closed.length }

/-- A block starts in a column, unless it is open already. -/
def opensBlock (s : Layout) (column : Nat) : Bool := !s.inFlow && s.least ≤ column

/-- A block in a column, whose start is put in at a position if it is new. -/
def openBlock (s : Layout) (column position : Nat) (start : Token) : Layout :=
  if s.opensBlock column then { s.insert position [start] with blocks := column :: s.blocks } else s

/-- The last value that may be a key is none. -/
def dropCandidate? (s : Layout) : Option Layout :=
  (KeyCandidate.drop? s.candidate).map fun _ => { s with candidate := none }

/-- The value that follows may be a key. At the column of a block nothing else can follow. -/
def addCandidate? (s : Layout) : Option Layout :=
  if s.isFresh then
    let p := s.cursor.place
    let isRequired := !s.inFlow && s.blocks.head? == some p.column
    s.dropCandidate?.map fun s => { s with candidate := some ⟨isRequired, s.count, p⟩ }
  else some s

/-- A value that may be a key, as one token. -/
def value? (s : Layout) (t : Token) (after : Cursor) (isFresh : Bool) : Option Layout :=
  s.addCandidate?.map fun s => (s.push t).moved after isFresh

/-! ### Kinds of tokens -/

/-- All blocks end, and nothing may be a key. -/
def close? (s : Layout) : Option Layout := (s.closeBlocks fun _ => true).dropCandidate?

/-- A directive. -/
def directive? (s : Layout) : Option Layout := do
  let s ← s.close?
  let (d, after) ← Directive.read? s.cursor
  return (s.push (.directive d)).moved after false

/-- A boundary of a document. -/
def boundary? (s : Layout) (t : Token) : Option Layout :=
  s.close?.map fun s => (s.push t).moved (s.cursor.advance 3) false

/-- An opening bracket. What is in the brackets may be a key, too. -/
def openFlow? (s : Layout) (t : Token) : Option Layout := do
  let s ← s.value? t (s.cursor.advance 1) true
  return { s with outer := s.candidate :: s.outer, candidate := none }

/-- A closing bracket. -/
def closeFlow? (s : Layout) (t : Token) : Option Layout := do
  let s ← s.dropCandidate?
  let s := { s with candidate := s.outer.headD none, outer := s.outer.drop 1 }
  return (s.push t).moved (s.cursor.advance 1) false

/-- A comma. -/
def comma? (s : Layout) : Option Layout :=
  s.dropCandidate?.map fun s => (s.push .comma).moved (s.cursor.advance 1) true

/-- The dash of an item. Within brackets it is wrong, which shows later. -/
def dash? (s : Layout) : Option Layout :=
  if !s.inFlow && !s.isFresh then none
  else do
    let s ← (s.openBlock s.cursor.place.column s.count .itemsStart).dropCandidate?
    return (s.push .dash).moved (s.cursor.advance 1) true

/-- A question mark in front of a key. -/
def key? (s : Layout) : Option Layout :=
  if !s.inFlow && !s.isFresh then none
  else do
    let s ← (s.openBlock s.cursor.place.column s.count .fieldsStart).dropCandidate?
    return (s.push .key).moved (s.cursor.advance 1) !s.inFlow

/-- A colon. If what is before it may be a key, it is one, and may be the first of a map. -/
def colon? (s : Layout) : Option Layout :=
  match s.candidate with
  | some k =>
    let s := (s.insert k.position [.key]).openBlock k.place.column k.position .fieldsStart
    some (({ s with candidate := none }.push .colon).moved (s.cursor.advance 1) false)
  | none =>
    if !s.inFlow && !s.isFresh then none
    else
      let s := s.openBlock s.cursor.place.column s.count .fieldsStart
      some ((s.push .colon).moved (s.cursor.advance 1) !s.inFlow)

/-- A scalar over indented lines. -/
def block? (s : Layout) (style : Style) : Option Layout := do
  let s ← s.dropCandidate?
  let (cs, after) ← blockScalar? (style == .folded) s.least s.cursor
  return (s.push (.scalar style (String.ofList cs))).moved after true

/-- A scalar in quotes. -/
def quoted? (s : Layout) (quote : Char) : Option Layout := do
  let (cs, after) ← Yaml.quoted? quote s.cursor
  s.value? (.scalar .quoted (String.ofList cs)) after false

/-- A scalar without quotes. A key may stand on the line behind it. -/
def plain? (s : Layout) : Option Layout := do
  let (cs, endsWithBreak, after) ← Yaml.plain? s.inFlow s.least s.cursor
  s.value? (.scalar .plain (String.ofList cs)) after endsWithBreak

/-! ### All tokens -/

/-- One more token, of which the given character is the first. -/
def read? (s : Layout) (c : Char) : Option Layout :=
  let behind := s.cursor.rest.drop 1
  let isIndicator := endsWord behind
  if s.cursor.place.column = 0 && c = '%' then s.directive?
  else if s.cursor.place.column = 0 && startsMarker s.cursor.rest then
    s.boundary? (if c = '-' then .documentStart else .documentEnd)
  else if c = '[' then s.openFlow? .listStart
  else if c = '\x7b' then s.openFlow? .mapStart
  else if c = ']' then s.closeFlow? .listEnd
  else if c = '\x7d' then s.closeFlow? .mapEnd
  else if c = ',' then s.comma?
  else if c = '-' && isIndicator then s.dash?
  else if c = '?' && (s.inFlow || isIndicator) then s.key?
  else if c = ':' && (s.inFlow || isIndicator) then s.colon?
  else if c = '*' then do
    let (name, after) ← anchor? s.cursor
    s.value? (.alias name) after false
  else if c = '&' then do
    let (name, after) ← anchor? s.cursor
    s.value? (.anchor name) after false
  else if c = '!' then do
    let (t, after) ← Tag.read? s.inFlow s.cursor
    s.value? (.tag t) after false
  else if c = '|' && !s.inFlow then s.block? .literal
  else if c = '>' && !s.inFlow then s.block? .folded
  else if c = '\'' || c = '"' then s.quoted? c
  else if canStartPlain s.inFlow s.cursor.rest then s.plain?
  else none

/-- The start of the next token: blanks and comments are behind, and so are the blocks that end with
them and the keys whose colon is missing. -/
def toNext? (s : Layout) : Option Layout := do
  let (isFresh, after) := s.cursor.skip s.inFlow s.isFresh
  let candidate ← KeyCandidate.keep? after.place s.candidate
  let outer ← s.outer.mapM (KeyCandidate.keep? after.place)
  let s := { s with cursor := after, isFresh, candidate, outer }
  if after.rest.isEmpty then return s
  else return s.closeBlocks (after.place.column < ·)

/-- The tokens of the whole text. Every one uses up one of the steps. -/
def tokens? (steps : Nat) (s : Layout) : Option (List Token) :=
  match steps with
  | 0 => none
  | steps + 1 => do
    let s ← s.toNext?
    match s.cursor.head? with
    | none => s.close?.map (·.tokens.reverse)
    | some c => tokens? steps (← s.read? c)

end Layout

/-- The tokens of a text whose lines end with line feeds. Every token takes up at least one of its
characters. -/
def Token.ofText? (cs : List Char) : Option (List Token) :=
  Layout.tokens? (cs.length + 1) { cursor := .start cs }

end ChatBot.Yaml
