import ChatBot.Json.Numeral
import ChatBot.Json.Quoted

/-!
JSON texts as trees of what is written, before any of it is given a value.

A node keeps the order of its fields and every field that is repeated; a number beyond all numbers
and a text whose escapes make up no characters are kept as such. So a part of a text that nobody
asks for is only held to the grammar.

* `Node`: a value as it is written;
* `Lexeme.scan?`: the lexemes of a text, between which white space may stand;
* `State.step?`: what one lexeme adds to what has been read. Open arrays and objects stand on a
  stack of frames, the innermost first;
* `Node.ofText?`: the node of a whole text.
-/

namespace ChatBot.Json

open ChatBot.Text

/-- A value as it is written. -/
inductive Node where
  | null
  | bool (b : Bool)
  /-- A number; none, if it is too large for one. -/
  | number (n : Option Number)
  /-- A quoted text; none, if its escapes make up no characters. -/
  | string (s : Option String)
  | array (items : List Node)
  /-- The fields in the order in which they are written. -/
  | object (fields : List (Option String × Node))

/-! ### Lexemes -/

/-- The lexemes of JSON. -/
inductive Lexeme where
  | bracketOpen
  | bracketClose
  | braceOpen
  | braceClose
  | comma
  | colon
  /-- A value without items and fields. -/
  | leaf (node : Node)

/-- The white space of JSON. -/
def isBlank (c : Char) : Bool := c == ' ' || c == '\n' || c == '\r' || c == '\t'

/-- A value that starts with a letter, and what is left. -/
def literal? : List Char → Option (Node × List Char)
  | 'n' :: 'u' :: 'l' :: 'l' :: rest => some (.null, rest)
  | 't' :: 'r' :: 'u' :: 'e' :: rest => some (.bool true, rest)
  | 'f' :: 'a' :: 'l' :: 's' :: 'e' :: rest => some (.bool false, rest)
  | _ => none

theorem length_literal?_lt {cs rest : List Char} {n : Node} (h : literal? cs = some (n, rest)) :
    rest.length < cs.length := by
  unfold literal? at h
  split at h
  all_goals simp only [Option.some.injEq, Prod.mk.injEq, reduceCtorEq] at h
  all_goals
    rw [← h.2]
    simp only [List.length_cons]
    omega

namespace Lexeme

/-- The lexeme of a single character. -/
def ofChar? (c : Char) : Option Lexeme :=
  if c = '[' then some .bracketOpen
  else if c = ']' then some .bracketClose
  else if c = '\x7b' then some .braceOpen
  else if c = '\x7d' then some .braceClose
  else if c = ',' then some .comma
  else if c = ':' then some .colon
  else none

/-- The first lexeme of the text `c :: cs`, where `c` is no white space, and what is left. -/
def first? (c : Char) (cs : List Char) : Option (Lexeme × List Char) :=
  match ofChar? c with
  | some lexeme => some (lexeme, cs)
  | none =>
    if c = '"' then
      (pieces? cs).map fun (ps, rest) =>
        (.leaf (.string ((characters? ps).map String.ofList)), rest)
    else match literal? (c :: cs) with
      | some (node, rest) => some (.leaf node, rest)
      | none => (Numeral.read? (c :: cs)).map fun (n, rest) => (.leaf (.number n.number?), rest)

/-- The first lexeme takes at least one character. -/
theorem length_first?_le {c : Char} {cs rest : List Char} {lexeme : Lexeme}
    (h : first? c cs = some (lexeme, rest)) : rest.length ≤ cs.length := by
  unfold first? at h
  split at h
  · simp only [Option.some.injEq, Prod.mk.injEq] at h
    simp [h.2]
  · split at h
    · obtain ⟨⟨ps, left⟩, hp, heq⟩ := Option.map_eq_some_iff.1 h
      have := length_pieces?_lt hp
      simp only [Prod.mk.injEq] at heq
      rw [← heq.2]
      omega
    · split at h
      · next node left hl =>
        have := length_literal?_lt hl
        simp only [Option.some.injEq, Prod.mk.injEq] at h
        rw [← h.2]
        simp only [List.length_cons] at this
        omega
      · obtain ⟨⟨n, left⟩, hn, heq⟩ := Option.map_eq_some_iff.1 h
        have := Numeral.length_read?_lt hn
        simp only [Prod.mk.injEq] at heq
        rw [← heq.2]
        simp only [List.length_cons] at this
        omega

/-- The lexemes of a text. -/
def scan? : List Char → Option (List Lexeme)
  | [] => some []
  | c :: cs =>
    if isBlank c then scan? cs
    else match _taken : first? c cs with
      | none => none
      | some (lexeme, rest) => (scan? rest).map (lexeme :: ·)
termination_by cs => cs.length
decreasing_by
  · simp
  · simpa using Nat.lt_succ_of_le (length_first?_le _taken)

end Lexeme

/-! ### From lexemes to nodes -/

/-- An array or object that is still open. -/
inductive Frame where
  /-- An array, behind the items read so far, the latest first. -/
  | items (done : List Node)
  /-- An object, behind the fields read so far, the latest first, at the value of a key. -/
  | value (done : List (Option String × Node)) (key : Option String)

/-- What has been read, and so what may come next. -/
inductive State where
  /-- A value must come. -/
  | due (stack : List Frame)
  /-- An array was opened: an item or its end must come. -/
  | opened (stack : List Frame)
  /-- An object was opened: a key or its end must come. -/
  | braced (stack : List Frame)
  /-- A comma stands behind a field: a key must come. -/
  | keyDue (done : List (Option String × Node)) (stack : List Frame)
  /-- A key was read: a colon must come. -/
  | colonDue (done : List (Option String × Node)) (key : Option String) (stack : List Frame)
  /-- A value was read. -/
  | read (node : Node) (stack : List Frame)

namespace State

/-- The start of a value. -/
def start? (stack : List Frame) : Lexeme → Option State
  | .leaf node => some (.read node stack)
  | .bracketOpen => some (.opened stack)
  | .braceOpen => some (.braced stack)
  | _ => none

/-- What one more lexeme makes of the state. -/
def step? : State → Lexeme → Option State
  | .due stack, lexeme => start? stack lexeme
  | .opened stack, .bracketClose => some (.read (.array []) stack)
  | .opened stack, lexeme => start? (.items [] :: stack) lexeme
  | .braced stack, .braceClose => some (.read (.object []) stack)
  | .braced stack, .leaf (.string key) => some (.colonDue [] key stack)
  | .keyDue done stack, .leaf (.string key) => some (.colonDue done key stack)
  | .colonDue done key stack, .colon => some (.due (.value done key :: stack))
  | .read node (.items done :: stack), .comma => some (.due (.items (node :: done) :: stack))
  | .read node (.items done :: stack), .bracketClose =>
    some (.read (.array (node :: done).reverse) stack)
  | .read node (.value done key :: stack), .comma => some (.keyDue ((key, node) :: done) stack)
  | .read node (.value done key :: stack), .braceClose =>
    some (.read (.object ((key, node) :: done).reverse) stack)
  | _, _ => none

/-- The whole value, if nothing is open. -/
def result? : State → Option Node
  | .read node [] => some node
  | _ => none

end State

namespace Node

/-- The node of a list of lexemes. -/
def ofLexemes? (lexemes : List Lexeme) : Option Node := do
  (← lexemes.foldlM State.step? (.due [])).result?

/-- The node of a whole text: a value with nothing but white space around it. -/
def ofText? (cs : List Char) : Option Node := do ofLexemes? (← Lexeme.scan? cs)

end Node

end ChatBot.Json
