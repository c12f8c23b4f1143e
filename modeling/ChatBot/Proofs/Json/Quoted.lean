import Mathlib.Tactic
import ChatBot.Json.Basic
import ChatBot.Json.Quoted

/-!
Quoted texts of JSON are read back from what is written.

* `Piece.Written`, `Quoted`: the ways in which a piece and several ones may be written.
  `Quoted.pieces?` says that they are read back;
* `Writes p c`: the escaped form of the character `c` is one of the piece `p`, which makes up `c`
  again. `exists_writes` finds the piece for every character;
* `exists_quoted`: the escaped form of a text is one of pieces that make up the text.
  `exists_quote_eq` says so of the quoted form.
-/

namespace ChatBot.Json

open ChatBot.Text

/-- The ways in which a piece may be written: a character stands for itself or has a short escape,
and a unit is the number of four digits. -/
inductive Piece.Written : Piece → List Char → Prop
  | plain {c : Char} (hquote : c ≠ '"') (hslash : c ≠ '\\') (hcontrol : ¬c.toNat < 32) :
      Written (.plain c) [c]
  | short {c d : Char} (h : shortEscape? d = some c) : Written (.plain c) ['\\', d]
  | unit {a b c d : Char} {code : ℕ} (h : numberIn? 16 [a, b, c, d] = some code) :
      Written (.unit code) ['\\', 'u', a, b, c, d]

/-- A piece is read back. -/
lemma Piece.Written.pieces?_append {p : Piece} {cs : List Char} (h : p.Written cs)
    (ds : List Char) : pieces? (cs ++ ds) = (pieces? ds).map fun (ps, rest) => (p :: ps, rest) := by
  cases h with
  | plain hquote hslash hcontrol =>
      rw [List.singleton_append, pieces?.eq_5 _ _ (by simp [hquote]) (by simp [hslash])
        (by simp [hslash]), if_neg (by simp [hslash, hcontrol])]
      cases pieces? ds <;> rfl
  | @short c d h =>
      have hu : d ≠ 'u' := by
        rintro rfl
        exact nomatch h
      simp only [List.cons_append, List.nil_append]
      rw [pieces?.eq_4 _ _ (by simp [hu]), h]
      cases pieces? ds <;> rfl
  | unit h =>
      simp only [List.cons_append, List.nil_append, pieces?, h]
      cases pieces? ds <;> rfl

/-- The ways in which pieces may be written, one after another. -/
inductive Quoted : List Piece → List Char → Prop
  | nil : Quoted [] []
  | cons {p : Piece} {ps : List Piece} {cs ds : List Char} (h : p.Written cs) (h' : Quoted ps ds) :
      Quoted (p :: ps) (cs ++ ds)

/-- Pieces are read back up to a quote. -/
theorem Quoted.pieces? {ps : List Piece} {cs : List Char} (h : Quoted ps cs) (rest : List Char) :
    pieces? (cs ++ '"' :: rest) = some (ps, rest) := by
  induction h with
  | nil => simp [Json.pieces?]
  | cons h _ ih =>
      rw [List.append_assoc, h.pieces?_append, ih]
      rfl

/-- The escaped form of `c` is one of `p`, and `p` stands for `c`. -/
structure Writes (p : Piece) (c : Char) : Prop where
  written : p.Written (escape c)
  value : ∀ ps, characters? (p :: ps) = (characters? ps).map (c :: ·)

/-- A character that a backslash and a letter stand for. -/
lemma writes_short {c d : Char} (hd : escape c = ['\\', d]) (hs : shortEscape? d = some c) :
    Writes (.plain c) c where
  written := hd ▸ .short hs
  value _ := rfl

/-- A control character, which stands as the number of a unit. -/
lemma writes_control {c : Char} (he : escape c = '\\' :: 'u' :: '0' :: '0' :: hexPair c.toNat)
    (hc : c.toNat < 32) : Writes (.unit c.toNat) c where
  written := by
    have hnumber : ∀ n < 32, numberIn? 16 ('0' :: '0' :: hexPair n) = some n := by decide
    rw [he]
    exact .unit (hnumber _ hc)
  value ps := by
    have hl : isLeading c.toNat = false := by simp [isLeading]; omega
    have ht : isTrailing c.toNat = false := by simp [isTrailing]; omega
    rw [characters?.eq_def]
    simp only [hl, ht, Bool.false_eq_true, if_false, Char.ofNat_toNat]

/-- A character that stands for itself. -/
lemma writes_plain {c : Char} (he : escape c = [c]) (hq : c ≠ '"') (hb : c ≠ '\\')
    (hc : ¬c.toNat < 32) : Writes (.plain c) c where
  written := he ▸ .plain hq hb hc
  value _ := rfl

/-- Every character has a piece. -/
lemma exists_writes (c : Char) : ∃ p, Writes p c := by
  by_cases hq : c = '"'
  · subst hq
    exact ⟨_, writes_short rfl rfl⟩
  by_cases hb : c = '\\'
  · subst hb
    exact ⟨_, writes_short rfl rfl⟩
  by_cases hn : c = '\n'
  · subst hn
    exact ⟨_, writes_short rfl rfl⟩
  by_cases hr : c = '\r'
  · subst hr
    exact ⟨_, writes_short rfl rfl⟩
  by_cases ht : c = '\t'
  · subst ht
    exact ⟨_, writes_short rfl rfl⟩
  by_cases h8 : c = '\x08'
  · subst h8
    exact ⟨_, writes_short rfl rfl⟩
  by_cases hc : c = '\x0c'
  · subst hc
    exact ⟨_, writes_short rfl rfl⟩
  by_cases hlow : c.toNat < 32
  · exact ⟨_, writes_control (by simp [escape, *]) hlow⟩
  · exact ⟨_, writes_plain (by simp [escape, *]) hq hb hlow⟩

/-- The escaped form of a text is one of pieces that make up the text. -/
theorem exists_quoted (cs : List Char) :
    ∃ ps, Quoted ps (cs.flatMap escape) ∧ characters? ps = some cs := by
  induction cs with
  | nil => exact ⟨[], .nil, rfl⟩
  | cons c cs ih =>
      obtain ⟨ps, hquoted, hvalue⟩ := ih
      obtain ⟨p, hp⟩ := exists_writes c
      refine ⟨p :: ps, .cons hp.written hquoted, ?_⟩
      rw [hp.value, hvalue]
      rfl

/-- The quoted form of a text is one of pieces that make up the text. -/
lemma exists_quote_eq (s : String) : ∃ ps cs, quote s = '"' :: cs ++ ['"'] ∧ Quoted ps cs ∧
    (characters? ps).map String.ofList = some s := by
  obtain ⟨ps, hquoted, hvalue⟩ := exists_quoted s.toList
  exact ⟨ps, _, rfl, hquoted, by rw [hvalue, Option.map_some, String.ofList_toList]⟩

end ChatBot.Json
