import ChatBot.Text.Digit

/-!
Character references of markup.

* `entity?`: the character of a reference by name or number, without `&` and `;`;
* `unescape`: a text with its references replaced. A reference reaches from an ampersand to the next
  semicolon; an ampersand that starts none stands for itself, and what comes out is not looked at
  again.
-/

namespace ChatBot.Text

/-- The references by name. -/
def namedEntities : List (String × Char) :=
  [("amp", '&'), ("lt", '<'), ("gt", '>'), ("quot", '"'), ("apos", '\''), ("pound", '£'),
    ("euro", '€'), ("yen", '¥')]

/-- The number of a run of digits in a base, with an optional plus sign in front. -/
def number? (base : Nat) (cs : List Char) : Option Nat :=
  let ds := match cs with
    | '+' :: ds => ds
    | ds => ds
  if ds.isEmpty then none
  else numberIn? base ds

/-- The character of a code point. -/
def charOfCode? (code : Nat) : Option Char :=
  if code.isValidChar then some (Char.ofNat code) else none

/-- The character of a reference. -/
def entity? : List Char → Option Char
  | '#' :: 'x' :: digits => (number? 16 digits).bind charOfCode?
  | '#' :: 'X' :: digits => (number? 16 digits).bind charOfCode?
  | '#' :: digits => (number? 10 digits).bind charOfCode?
  | name => namedEntities.lookup (String.ofList name)

/-- What stands before the first semicolon and after it. -/
def breakAtSemicolon (cs : List Char) : Option (List Char × List Char) :=
  match cs.dropWhile (· ≠ ';') with
  | _ :: after => some (cs.takeWhile (· ≠ ';'), after)
  | [] => none

theorem length_breakAtSemicolon_lt {cs before after : List Char}
    (h : breakAtSemicolon cs = some (before, after)) : after.length < cs.length := by
  unfold breakAtSemicolon at h
  split at h
  · next c rest hd =>
    have hle : (cs.dropWhile (· ≠ ';')).length ≤ cs.length :=
      (List.dropWhile_sublist _).length_le
    simp only [Option.some.injEq, Prod.mk.injEq] at h
    rw [hd, List.length_cons] at hle
    rw [← h.2]
    omega
  · simp at h

/-- The reference behind an ampersand, and what follows it. -/
def reference? (cs : List Char) : Option (Char × List Char) :=
  (breakAtSemicolon cs).bind fun (name, after) => (entity? name).map fun c => (c, after)

theorem length_reference?_lt {cs after : List Char} {c : Char}
    (h : reference? cs = some (c, after)) : after.length < cs.length := by
  simp only [reference?, Option.bind_eq_some_iff, Option.map_eq_some_iff, Prod.mk.injEq] at h
  obtain ⟨⟨name, rest⟩, hb, _, _, _, rfl⟩ := h
  exact length_breakAtSemicolon_lt hb

/-- A text with its references replaced. -/
def unescape : List Char → List Char
  | [] => []
  | c :: cs =>
    if c = '&' then
      match _found : reference? cs with
      | some (decoded, after) => decoded :: unescape after
      | none => c :: unescape cs
    else c :: unescape cs
termination_by cs => cs.length
decreasing_by
  · have := length_reference?_lt _found
    simp only [List.length_cons]
    omega
  · simp
  · simp

end ChatBot.Text
