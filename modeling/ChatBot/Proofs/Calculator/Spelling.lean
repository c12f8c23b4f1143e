import ChatBot.Proofs.Calculator.Alphabet

/-!
Spellings of tokens.

* `Spells`: how a token is spelled, a number by any literal that has its value;
* `Separates`: the tokens beside which no blank is needed;
* `Spelling`: a text in which tokens are spelled in order, with blanks in front of each and at the
  end, and at least one between two tokens of which neither separates;
* `Spells.first_append`: a token is taken off the front of a text that does not go on with it;
* `scan_spelling`: the tokens of a spelling are those that are spelled.
-/

namespace ChatBot.Calculator

open ChatBot.Text
open Binary64 (Literal)

namespace Token

/-! ### Spellings -/

/-- How a token is spelled. -/
inductive Spells : Token → List Char → Prop
  | number (l : Literal) : Spells (.number l.value) l.text
  | pi : Spells .pi "pi".toList
  | e : Spells .e "e".toList
  | func (f : Func) : Spells (.func f) f.name.toList
  | plus : Spells .plus "+".toList
  | minus : Spells .minus "-".toList
  | star : Spells .star "*".toList
  | doubleStar : Spells .doubleStar "**".toList
  | slash : Spells .slash "/".toList
  | doubleSlash : Spells .doubleSlash "//".toList
  | percent : Spells .percent "%".toList
  | parenOpen : Spells .parenOpen "(".toList
  | parenClose : Spells .parenClose ")".toList

/-- The tokens beside which no blank is needed. -/
inductive Separates : Token → Prop
  | plus : Separates .plus
  | minus : Separates .minus
  | percent : Separates .percent
  | parenOpen : Separates .parenOpen
  | parenClose : Separates .parenClose

/-- A text spells tokens in order. Blanks may stand in front of each of them and at the end, and one
has to stand between two tokens of which neither separates. -/
inductive Spelling : List Token → List Char → Prop
  | blank {gap : List Char} (hgap : ∀ c ∈ gap, isBlank c = true) : Spelling [] gap
  | token {gap word rest : List Char} {t : Token} {ts : List Token}
      (hgap : ∀ c ∈ gap, isBlank c = true)
      (hword : Spells t word)
      (hnext : ∀ u ∈ ts.head?, Separates t ∨ Separates u ∨ ∃ c ∈ rest.head?, isBlank c = true)
      (hrest : Spelling ts rest) : Spelling (t :: ts) (gap ++ (word ++ rest))

variable {c : Char} {cs gap rest word : List Char} {t : Token} {ts : List Token}

/-! ### Ends of tokens -/

/-- The characters of the tokens that separate. -/
def separators : List Char := ['+', '-', '%', '(', ')']

/-- No token goes on into the text. -/
def Closes (rest : List Char) : Prop := ∀ c ∈ rest.head?, isBlank c = true ∨ c ∈ separators

lemma toNat_of_isNameLetter (h : isNameLetter c = true) :
    97 ≤ c.toNat ∧ c.toNat ≤ 122 ∨ 65 ≤ c.toNat ∧ c.toNat ≤ 90 := by
  simp only [isNameLetter, Bool.or_eq_true, Bool.and_eq_true, decide_eq_true_eq, Char.le_def,
    UInt32.le_iff_toNat_le] at h
  exact h

lemma isBlank_eq_false_of_isNameLetter (h : isNameLetter c = true) : isBlank c = false := by
  have hrange := toNat_of_isNameLetter h
  simp only [isBlank, blankRanges, Ranges.contains]
  grind

/-- What closes a token is none of the characters that tokens go on with. -/
lemma Closes.eq_false {p : Char → Bool} (hblank : ∀ c, p c = true → isBlank c = false)
    (hseparators : separators.any p = false) (h : Closes rest) : ∀ c ∈ rest.head?, p c = false := by
  intro c hc
  rcases h c hc with hc | hc
  · exact Bool.eq_false_iff.mpr fun hp => by simp [hblank c hp] at hc
  · exact Bool.eq_false_iff.mpr (List.any_eq_false.mp hseparators c hc)

lemma Closes.isDigit (h : Closes rest) : ∀ c ∈ rest.head?, isDigit c = false :=
  h.eq_false (fun _ => isBlank_eq_false_of_isDigit) (by decide)

lemma Closes.isNameLetter (h : Closes rest) : ∀ c ∈ rest.head?, isNameLetter c = false :=
  h.eq_false (fun _ => isBlank_eq_false_of_isNameLetter) (by decide)

lemma Closes.ne (h : Closes rest) {d : Char} (hblank : isBlank d = false)
    (hseparators : d ∉ separators) : rest.head? ≠ some d := by
  intro hd
  rcases h d hd with hc | hc
  · simp [hblank] at hc
  · exact hseparators hc

/-! ### The first token -/

lemma splitLiteral_text (l : Literal) (h : Closes rest) :
    splitLiteral (l.text ++ rest) = (l.text, rest) := by
  have hstop : ∀ c ∈ (l.tail ++ rest).head?, isDigit c = false :=
    head?_append_run l.head?_tail h.isDigit
  have htake : (l.text ++ rest).takeWhile isDigit = l.whole := by
    rw [Literal.text, List.append_assoc, takeWhile_run l.isDigit_of_mem_whole hstop]
  have hdrop : (l.text ++ rest).dropWhile isDigit = l.tail ++ rest := by
    rw [Literal.text, List.append_assoc, dropWhile_run l.isDigit_of_mem_whole hstop]
  unfold splitLiteral
  rw [htake, hdrop, Literal.text, Literal.tail]
  cases hfraction : l.fraction with
  | none =>
      have hpoint : rest.head? ≠ some '.' := h.ne (by decide) (by decide)
      simp only [Option.elim_none, List.nil_append, List.append_nil]
      split
      · exact absurd rfl hpoint
      · rfl
  | some ds =>
      have hds := l.isDigit_of_mem_places
      rw [Literal.places, hfraction, Option.getD_some] at hds
      simp only [Option.elim_some, List.cons_append, takeWhile_run hds h.isDigit,
        dropWhile_run hds h.isDigit]

lemma ofLiteral_text (l : Literal) : ofLiteral l.text = .ok (.number l.value) := by
  have hread := l.ofText?_text
  have hpoint : l.text ≠ ['.'] := by
    intro heq
    rw [heq] at hread
    exact absurd hread (by rw [show Binary64.ofText? ['.'] = none from rfl]; exact nofun)
  rw [ofLiteral, if_neg hpoint, hread]

lemma not_startsLiteral_of_isNameLetter (h : isNameLetter c = true) :
    ¬(isDigit c || c == '.') = true := by
  have hrange := toNat_of_isNameLetter h
  simp only [isDigit, Bool.or_eq_true, Bool.and_eq_true, decide_eq_true_eq, beq_iff_eq, Char.le_def,
    UInt32.le_iff_toNat_le]
  rintro (hdigit | rfl)
  · have hlast : c.toNat ≤ 57 := hdigit.2
    omega
  · exact absurd h (by decide)

/-- A name is as long as its letters go on. -/
lemma first_name (name : String) (hname : (name, t) ∈ names) {run : List Char}
    (htext : name.toList = c :: run) (h : Closes rest) : first c (run ++ rest) = .ok (t, rest) := by
  have hlookup : ∀ entry ∈ names, names.lookup entry.1 = some entry.2 := by decide
  have hletters : ∀ entry ∈ names, entry.1.toList.all isNameLetter = true := by decide
  have hof : ofName (c :: run) = .ok t := by
    rw [ofName, ← htext, String.ofList_toList, hlookup _ hname]
  have hall := List.all_eq_true.mp (hletters _ hname)
  rw [htext] at hall
  obtain ⟨hc, hrun⟩ := List.forall_mem_cons.mp hall
  rw [first_of_name (not_startsLiteral_of_isNameLetter hc) hc, takeWhile_run hrun h.isNameLetter,
    dropWhile_run hrun h.isNameLetter, hof]
  rfl

/-- A star or a slash stands for itself unless another one follows. -/
lemma first_single (ht : c = '*' ∧ t = .star ∨ c = '/' ∧ t = .slash) (h : rest.head? ≠ some c) :
    first c rest = .ok (t, rest) := by
  cases rest with
  | nil => rcases ht with ⟨rfl, rfl⟩ | ⟨rfl, rfl⟩ <;> rfl
  | cons d ds =>
      have hd : d ≠ c := fun heq => h (congrArg some heq)
      unfold first
      rcases ht with ⟨rfl, rfl⟩ | ⟨rfl, rfl⟩
      all_goals
        rw [if_neg (by decide), if_neg (by decide)]
        split <;> simp_all

/-- A token is taken off the front of a text that does not go on with it. -/
lemma Spells.first_append (h : Spells t word) (hrest : Separates t ∨ Closes rest) :
    ∃ c cs, word ++ rest = c :: cs ∧ isBlank c = false ∧ first c cs = .ok (t, rest) := by
  have hcloses (ht : ¬Separates t) : Closes rest := hrest.resolve_left ht
  cases h with
  | number l =>
      have hend := hcloses nofun
      obtain ⟨c, cs, htext, hc⟩ := l.exists_text_eq_cons
      have hblank : isBlank c = false := by
        rcases Bool.or_eq_true_iff.mp hc with hdigit | hpoint
        · exact isBlank_eq_false_of_isDigit hdigit
        · rw [eq_of_beq hpoint]
          decide
      refine ⟨c, cs ++ rest, by rw [htext, List.cons_append], hblank, ?_⟩
      rw [first_of_literal hc, ← List.cons_append, ← htext, splitLiteral_text l hend,
        ofLiteral_text]
      rfl
  | pi => exact ⟨'p', ['i'] ++ rest, rfl, rfl, first_name "pi" (by decide) rfl (hcloses nofun)⟩
  | e => exact ⟨'e', [] ++ rest, rfl, rfl, first_name "e" (by decide) rfl (hcloses nofun)⟩
  | func f =>
      have hend := hcloses nofun
      cases f with
      | sin => exact ⟨'s', ['i', 'n'] ++ rest, rfl, rfl, first_name "sin" (by decide) rfl hend⟩
      | cos => exact ⟨'c', ['o', 's'] ++ rest, rfl, rfl, first_name "cos" (by decide) rfl hend⟩
      | tan => exact ⟨'t', ['a', 'n'] ++ rest, rfl, rfl, first_name "tan" (by decide) rfl hend⟩
  | star =>
      exact ⟨'*', rest, rfl, rfl,
        first_single (by simp) ((hcloses nofun).ne (by decide) (by decide))⟩
  | slash =>
      exact ⟨'/', rest, rfl, rfl,
        first_single (by simp) ((hcloses nofun).ne (by decide) (by decide))⟩
  | plus | minus | doubleStar | doubleSlash | percent | parenOpen | parenClose =>
      exact ⟨_, _, rfl, rfl, rfl⟩

/-! ### All tokens -/

lemma scan_append_blanks (hgap : ∀ c ∈ gap, isBlank c = true) (cs : List Char) :
    scan (gap ++ cs) = scan cs := by
  induction gap with
  | nil => rfl
  | cons c gap ih =>
      obtain ⟨hc, hgap⟩ := List.forall_mem_cons.mp hgap
      rw [List.cons_append, scan, if_pos hc, ih hgap]

lemma scan_cons (hc : isBlank c = false) (hfirst : first c cs = .ok (t, rest)) :
    scan (c :: cs) = (scan rest).map (t :: ·) := by
  rw [scan, if_neg (by simp [hc])]
  split
  · next heq => simp [hfirst] at heq
  · next heq =>
    obtain ⟨rfl, rfl⟩ : t = _ ∧ rest = _ := by simpa [hfirst] using heq
    rfl

/-- What separates is a single character. -/
lemma Spells.of_separates (h : Spells t word) (ht : Separates t) :
    ∃ c ∈ separators, word = [c] := by
  cases ht <;> cases h <;> exact ⟨_, by decide, rfl⟩

/-- Behind a token that does not separate the text closes it. -/
lemma Spelling.closes (h : Spelling ts rest) (ht : ¬Separates t)
    (hnext : ∀ u ∈ ts.head?, Separates t ∨ Separates u ∨ ∃ c ∈ rest.head?, isBlank c = true) :
    Closes rest := by
  cases h with
  | blank hgap => exact fun c hc => .inl (hgap c (List.mem_of_mem_head? hc))
  | @token gap word rest u ts hgap hword _ _ =>
      rcases (hnext u rfl).resolve_left ht with hu | ⟨c, hc, hblank⟩
      · obtain ⟨d, hd, rfl⟩ := hword.of_separates hu
        cases gap with
        | nil => exact fun c hc => .inr (Option.some.inj hc ▸ hd)
        | cons b gap => exact fun c hc => .inl (Option.some.inj hc ▸ hgap b List.mem_cons_self)
      · exact fun d hd => .inl (Option.mem_unique hc hd ▸ hblank)

/-- **Spelling**: whatever literals are chosen for the numbers, and whatever blanks stand
around the tokens, the tokens of a spelling are those that are spelled, each number with the
value of its own literal. -/
theorem scan_spelling (h : Spelling ts cs) : scan cs = .ok ts := by
  induction h with
  | blank hgap =>
      have hnil : scan [] = .ok [] := by rw [scan]
      simpa [hnil] using scan_append_blanks hgap []
  | @token gap word rest t ts hgap hword hnext hrest ih =>
      have hcloses : Separates t ∨ Closes rest :=
        or_iff_not_imp_left.mpr fun ht => hrest.closes ht hnext
      obtain ⟨c, cs, htext, hc, hfirst⟩ := hword.first_append hcloses
      rw [scan_append_blanks hgap, htext, scan_cons hc hfirst, ih]
      rfl

/-- Two literals that a blank keeps apart, and signs that need none. -/
theorem scan_spelling_of_neighbours : ∃ l m : Literal, l.text = "2.".toList ∧ m.text = ".5".toList ∧
    Spelling [.number l.value, .number m.value, .doubleStar, .minus, .func .sin, .parenOpen, .pi,
      .parenClose, .percent, .doubleSlash] "\u20032. .5\t**-sin(pi)%//".toList ∧
    scan "\u20032. .5\t**-sin(pi)%//".toList =
      .ok [.number l.value, .number m.value, .doubleStar, .minus, .func .sin, .parenOpen, .pi,
        .parenClose, .percent, .doubleSlash] := by
  have hnone : ∀ c ∈ ([] : List Char), isBlank c = true := List.forall_mem_nil _
  have hblank (c : Char) (hc : isBlank c = true) : ∀ d ∈ [c], isBlank d = true :=
    List.forall_mem_singleton.mpr hc
  obtain ⟨l, hl⟩ : ∃ l : Literal, l.text = "2.".toList :=
    ⟨⟨['2'], some [], List.all_eq_true.mp rfl, by simp⟩, rfl⟩
  obtain ⟨m, hm⟩ : ∃ m : Literal, m.text = ".5".toList :=
    ⟨⟨[], some ['5'], List.all_eq_true.mp rfl, by simp⟩, rfl⟩
  have htwo : Spells (.number l.value) "2.".toList := hl ▸ .number l
  have hhalf : Spells (.number m.value) ".5".toList := hm ▸ .number m
  have hwords : Spelling [.number l.value, .number m.value, .doubleStar, .minus, .func .sin,
      .parenOpen, .pi, .parenClose, .percent, .doubleSlash]
      "\u20032. .5\t**-sin(pi)%//".toList := by
    refine .token (hblank '\u2003' rfl) htwo ?_ <| .token (hblank ' ' rfl) hhalf ?_ <|
      .token (hblank '\t' rfl) .doubleStar ?_ <| .token hnone .minus ?_ <|
      .token hnone (.func .sin) ?_ <| .token hnone .parenOpen ?_ <| .token hnone .pi ?_ <|
      .token hnone .parenClose ?_ <| .token hnone .percent ?_ <|
      .token hnone .doubleSlash nofun <| .blank hnone
    · exact fun _ _ => .inr (.inr ⟨' ', rfl, rfl⟩)
    · exact fun _ _ => .inr (.inr ⟨'\t', rfl, rfl⟩)
    · exact fun _ hu => .inr (.inl (Option.some.inj hu ▸ .minus))
    · exact fun _ _ => .inl .minus
    · exact fun _ hu => .inr (.inl (Option.some.inj hu ▸ .parenOpen))
    · exact fun _ _ => .inl .parenOpen
    · exact fun _ hu => .inr (.inl (Option.some.inj hu ▸ .parenClose))
    · exact fun _ _ => .inl .parenClose
    · exact fun _ _ => .inl .percent
  exact ⟨l, m, hl, hm, hwords, scan_spelling hwords⟩

end Token

end ChatBot.Calculator
