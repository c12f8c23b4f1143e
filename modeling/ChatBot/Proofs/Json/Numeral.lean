import Mathlib.Tactic
import ChatBot.Json.Numeral

/-!
Numbers of JSON are read back from their text.

* `Numeral.text`, `Numeral.WellFormed`: the text of a numeral, and the numerals that have one;
* `Numeral.Written`: the ways in which a numeral may be written, of which its text is one;
* `EndsNumeral`: the texts that do not go on with a number;
* `Numeral.read?_written`: a numeral is read back in front of every such text;
* `ofInt`: the numeral of a whole number. `Number.text_integer` says that it is the one written, and
  `number?_ofInt` that it stands for this number if 64 bits hold it.
-/

namespace ChatBot.Text

/-! ### Runs of digits -/

lemma isDigit_eq (c : Char) : isDigit c = c.isDigit := by
  simp only [isDigit, Char.isDigit, Char.le_def, ge_iff_le]

/-- The digits of a number are digits. -/
lemma isDigit_of_mem_toDigits {n : ℕ} {c : Char} (h : c ∈ Nat.toDigits 10 n) :
    isDigit c = true := by
  rw [isDigit_eq]
  exact Nat.isDigit_of_mem_toDigits (by omega) (by omega) h

/-- The digits of a number stand for it. -/
lemma numberOfDigits_toDigits (n : ℕ) : numberOfDigits (Nat.toDigits 10 n) = n := by
  have h := Nat.ofDigitChars_ten_toDigits (n := n)
  rwa [Nat.ofDigitChars_eq_foldl] at h

end ChatBot.Text

namespace ChatBot.Json

open ChatBot.Text

/-- The text does not go on with a number. -/
def EndsNumeral (rest : List Char) : Prop :=
  ∀ c ∈ rest.head?, isDigit c = false ∧ c ≠ '.' ∧ c ≠ 'e' ∧ c ≠ 'E'

lemma EndsNumeral.nil : EndsNumeral [] := by simp [EndsNumeral]

lemma EndsNumeral.cons {c : Char} {cs : List Char}
    (h : isDigit c = false ∧ c ≠ '.' ∧ c ≠ 'e' ∧ c ≠ 'E') : EndsNumeral (c :: cs) := by
  intro d hd
  obtain rfl : c = d := by simpa using hd
  exact h

namespace Numeral

/-! ### Numerals as text -/

/-- The text of a part behind the point. -/
def fractionText : Option (List Char) → List Char
  | none => []
  | some ds => '.' :: ds

/-- The text of an exponent, which carries its sign. -/
def exponentText : Option (Bool × List Char) → List Char
  | none => []
  | some (negative, ds) => 'e' :: (if negative then '-' else '+') :: ds

/-- The text of a numeral. -/
def text (n : Numeral) : List Char :=
  (if n.negative then ['-'] else []) ++ n.whole ++ fractionText n.fraction ++
    exponentText n.exponent

/-- The text of a numeral up to its exponent. -/
def frontText (n : Numeral) : List Char :=
  (if n.negative then ['-'] else []) ++ n.whole ++ fractionText n.fraction

/-- The ways in which an exponent may be written. -/
inductive ExponentWritten : Option (Bool × List Char) → List Char → Prop
  | none : ExponentWritten none []
  | minus {mark : Char} (hmark : mark = 'e' ∨ mark = 'E') (ds : List Char) :
      ExponentWritten (some (true, ds)) (mark :: '-' :: ds)
  | plus {mark : Char} (hmark : mark = 'e' ∨ mark = 'E') (ds : List Char) :
      ExponentWritten (some (false, ds)) (mark :: '+' :: ds)
  | bare {mark : Char} (hmark : mark = 'e' ∨ mark = 'E') (ds : List Char) :
      ExponentWritten (some (false, ds)) (mark :: ds)

lemma exponentWritten_text (e : Option (Bool × List Char)) :
    ExponentWritten e (exponentText e) := by
  rcases e with _ | ⟨_ | _, ds⟩
  · exact .none
  · exact .plus (.inl rfl) ds
  · exact .minus (.inl rfl) ds

/-- The ways in which a numeral may be written. -/
def Written (n : Numeral) (cs : List Char) : Prop :=
  ∃ tail, ExponentWritten n.exponent tail ∧ cs = n.frontText ++ tail

/-- The text of a numeral is one of them. -/
lemma written_text (n : Numeral) : n.Written n.text := ⟨_, exponentWritten_text n.exponent, rfl⟩

/-- At least one character, and only digits. -/
def IsRun (ds : List Char) : Prop := ds ≠ [] ∧ ∀ c ∈ ds, isDigit c = true

/-- The numeral is as the grammar has it. By `leading`, a leading zero stands alone. -/
structure WellFormed (n : Numeral) : Prop where
  whole : IsRun n.whole
  leading : ∀ c cs, n.whole ≠ '0' :: c :: cs
  fraction : ∀ ds ∈ n.fraction, IsRun ds
  exponent : ∀ e ∈ n.exponent, IsRun e.2

/-- A numeral may start with the character: a digit or a minus sign. -/
def Starts (c : Char) : Prop := (isDigit c || c == '-') = true

lemma Starts.ne {c : Char} (hc : Starts c) (d : Char) (hd : (isDigit d || d == '-') = false) :
    c ≠ d := by
  rintro rfl
  exact absurd (hd.symm.trans hc) (by decide)

lemma WellFormed.exists_frontText_eq_cons {n : Numeral} (h : n.WellFormed) :
    ∃ c cs, n.frontText = c :: cs ∧ Starts c := by
  obtain ⟨hne, hdigits⟩ := h.whole
  rcases hw : n.whole with _ | ⟨d, ds⟩
  · exact absurd hw hne
  · have hd : isDigit d = true := hdigits d (by simp [hw])
    cases hn : n.negative with
    | true =>
        have htext : n.frontText = '-' :: (d :: ds ++ fractionText n.fraction) := by
          simp [frontText, hn, hw]
        exact ⟨_, _, htext, rfl⟩
    | false =>
        have htext : n.frontText = d :: (ds ++ fractionText n.fraction) := by
          simp [frontText, hn, hw]
        exact ⟨_, _, htext, by simp [Starts, hd]⟩

lemma WellFormed.exists_eq_cons {n : Numeral} {cs : List Char} (h : n.WellFormed)
    (hcs : n.Written cs) : ∃ c ds, cs = c :: ds ∧ Starts c := by
  obtain ⟨c, ds, hfront, hc⟩ := h.exists_frontText_eq_cons
  obtain ⟨tail, -, rfl⟩ := hcs
  exact ⟨c, ds ++ tail, by rw [hfront, List.cons_append], hc⟩

/-- A run of digits is read up to its end. -/
lemma digits?_append {ds rest : List Char} (h : IsRun ds)
    (hrest : ∀ c ∈ rest.head?, isDigit c = false) : digits? (ds ++ rest) = some (ds, rest) := by
  have htake : (ds ++ rest).takeWhile isDigit = ds := by
    rw [List.takeWhile_append_of_pos h.2]
    rcases rest with _ | ⟨c, cs⟩
    · simp
    · simp [hrest c rfl]
  have hdrop : (ds ++ rest).dropWhile isDigit = rest := by
    rw [List.dropWhile_append_of_pos h.2]
    rcases rest with _ | ⟨c, cs⟩
    · simp
    · simp [hrest c rfl]
  rcases ds with _ | ⟨d, ds⟩
  · exact absurd rfl h.1
  · simp only [digits?, digits, htake, hdrop]

lemma whole?_append {ds rest : List Char} (h : IsRun ds) (hzero : ∀ c cs, ds ≠ '0' :: c :: cs)
    (hrest : ∀ c ∈ rest.head?, isDigit c = false) : whole? (ds ++ rest) = some (ds, rest) := by
  unfold whole?
  rw [digits?_append h hrest]
  split
  · next c cs left heq =>
    simp only [Option.some.injEq, Prod.mk.injEq] at heq
    exact absurd heq.1 (hzero c cs)
  · rfl

/-- The head of an exponent or of what follows it is no digit and no point. -/
lemma ExponentWritten.head?_append {e : Option (Bool × List Char)} {tail rest : List Char}
    (h : ExponentWritten e tail) (hrest : EndsNumeral rest) :
    ∀ c ∈ (tail ++ rest).head?, isDigit c = false ∧ c ≠ '.' := by
  have hmarks : ∀ c, c = 'e' ∨ c = 'E' → isDigit c = false ∧ c ≠ '.' := by
    rintro c (rfl | rfl) <;> decide
  intro c hc
  cases h with
  | none => exact ⟨(hrest c hc).1, (hrest c hc).2.1⟩
  | minus hmark | plus hmark | bare hmark => exact hmarks c (Option.some.inj hc ▸ hmark)

lemma fraction?_append {f : Option (List Char)} {rest : List Char} (h : ∀ ds ∈ f, IsRun ds)
    (hrest : ∀ c ∈ rest.head?, isDigit c = false ∧ c ≠ '.') :
    fraction? (fractionText f ++ rest) = some (f, rest) := by
  rcases f with _ | ds
  · simp only [fractionText, List.nil_append]
    unfold fraction?
    split
    · next cs => exact absurd rfl (hrest '.' rfl).2
    · rfl
  · simp only [fractionText, List.cons_append, fraction?]
    rw [digits?_append (h ds rfl) fun c hc => (hrest c hc).1]
    rfl

/-- A run of digits carries no sign. -/
lemma takeSign_append {ds : List Char} (h : IsRun ds) (rest : List Char) :
    takeSign (ds ++ rest) = (false, ds ++ rest) := by
  obtain ⟨hne, hdigits⟩ := h
  rcases ds with _ | ⟨d, ds⟩
  · exact absurd rfl hne
  · have hd : isDigit d = true := hdigits d List.mem_cons_self
    rw [List.cons_append]
    unfold takeSign
    split
    · next heq => exact absurd ((List.cons.inj heq).1 ▸ hd) (by decide)
    · next heq => exact absurd ((List.cons.inj heq).1 ▸ hd) (by decide)
    · rfl

lemma ExponentWritten.exponent?_append {e : Option (Bool × List Char)} {tail rest : List Char}
    (hwritten : ExponentWritten e tail) (h : ∀ p ∈ e, IsRun p.2) (hrest : EndsNumeral rest) :
    exponent? (tail ++ rest) = some (e, rest) := by
  cases hwritten with
  | none =>
      rcases rest with _ | ⟨c, cs⟩
      · rfl
      · obtain ⟨-, -, he, hE⟩ := hrest c rfl
        simp [exponent?, he, hE]
  | minus hmark ds =>
      have hrun := digits?_append (h (true, ds) rfl) fun c hc => (hrest c hc).1
      simp [exponent?, hmark, takeSign, hrun]
  | plus hmark ds =>
      have hrun := digits?_append (h (false, ds) rfl) fun c hc => (hrest c hc).1
      simp [exponent?, hmark, takeSign, hrun]
  | bare hmark ds =>
      have hrun := digits?_append (h (false, ds) rfl) fun c hc => (hrest c hc).1
      have hsign := takeSign_append (h (false, ds) rfl) rest
      simp [exponent?, hmark, hsign, hrun]

/-- A numeral is read back however it is written, whatever follows that
does not go on with a number. -/
theorem read?_written {n : Numeral} {cs rest : List Char} (h : n.WellFormed) (hcs : n.Written cs)
    (hrest : EndsNumeral rest) : read? (cs ++ rest) = some (n, rest) := by
  obtain ⟨tail, hwritten, rfl⟩ := hcs
  have hexp := hwritten.exponent?_append h.exponent hrest
  have hfrac := fraction?_append h.fraction (hwritten.head?_append hrest)
  have hhead : ∀ c ∈ (fractionText n.fraction ++ (tail ++ rest)).head?, isDigit c = false := by
    cases hf : n.fraction with
    | none => exact fun c hc => (hwritten.head?_append hrest c hc).1
    | some ds =>
        intro c hc
        obtain rfl : '.' = c := by simpa [fractionText] using hc
        decide
  have hwhole := whole?_append h.whole h.leading hhead
  have hminus : minus (n.frontText ++ tail ++ rest) =
      (n.negative, n.whole ++ (fractionText n.fraction ++ (tail ++ rest))) := by
    cases hn : n.negative with
    | true => simp [frontText, hn, minus]
    | false =>
        obtain ⟨hne, hdigits⟩ := h.whole
        rcases hw : n.whole with _ | ⟨d, ds⟩
        · exact absurd hw hne
        · have hd : d ≠ '-' := by
            rintro rfl
            exact absurd (hdigits '-' (by simp [hw])) (by decide)
          simp only [frontText, hn, hw, List.cons_append, List.append_assoc, Bool.false_eq_true,
            if_false, List.nil_append]
          unfold minus
          split
          · next heq => simp only [List.cons.injEq] at heq; exact absurd heq.1 hd
          · rfl
  simp only [read?, hminus, hwhole, hfrac, hexp, Option.bind_eq_bind, Option.bind_some,
    Option.pure_def]

/-- A numeral is read back from its text. -/
theorem read?_text {n : Numeral} {rest : List Char} (h : n.WellFormed) (hrest : EndsNumeral rest) :
    read? (n.text ++ rest) = some (n, rest) := read?_written h n.written_text hrest

/-! ### Whole numbers -/

/-- The numeral of a whole number. -/
def ofInt (n : ℤ) : Numeral := ⟨decide (n < 0), Nat.toDigits 10 n.natAbs, none, none⟩

/-- The digits of a number are a run. -/
lemma isRun_toDigits (n : ℕ) : IsRun (Nat.toDigits 10 n) :=
  ⟨Nat.toDigits_ne_nil, fun _ => isDigit_of_mem_toDigits⟩

/-- The digits of a number other than zero do not start with a zero. -/
lemma head?_toDigits_ne {n : ℕ} (hn : 0 < n) : (Nat.toDigits 10 n).head? ≠ some '0' := by
  induction n using Nat.strong_induction_on with
  | _ n ih =>
      by_cases hlt : n < 10
      · rw [Nat.toDigits_of_lt_base hlt]
        interval_cases n <;> decide
      · rw [Nat.toDigits_of_base_le (by omega) (by omega),
          List.head?_append_of_ne_nil _ Nat.toDigits_ne_nil]
        exact ih (n / 10) (by omega) (by omega)

lemma toDigits_ne_zero_cons (n : ℕ) (c : Char) (cs : List Char) :
    Nat.toDigits 10 n ≠ '0' :: c :: cs := by
  rcases Nat.eq_zero_or_pos n with rfl | hn
  · simp
  · intro h
    exact head?_toDigits_ne hn (by rw [h]; rfl)

lemma wellFormed_ofInt (n : ℤ) : (ofInt n).WellFormed :=
  ⟨isRun_toDigits _, toDigits_ne_zero_cons _, by simp [ofInt], by simp [ofInt]⟩

/-- The numeral of a whole number stands for it, if 64 bits hold it with or without sign. -/
lemma number?_ofInt {n : ℤ} (hlow : -2 ^ 63 ≤ n) (hhigh : n < 2 ^ 64) :
    (ofInt n).number? = some (.integer n) := by
  have hbound : ¬2 ^ 64 ≤ n.natAbs := by omega
  simp only [number?, ofInt, numberOfDigits_toDigits, significandBound, Option.isSome_none, hbound,
    Bool.false_or, decide_false, Bool.false_eq_true, if_false]
  by_cases hn : n < 0
  · have hsmall : ¬(n.natAbs = 0 ∨ 2 ^ 63 < n.natAbs) := by omega
    have hneg : -(n.natAbs : ℤ) = n := by omega
    rw [decide_eq_true hn, if_neg (by simp), if_neg (by simpa using hsmall), hneg]
  · have hpos : (n.natAbs : ℤ) = n := by omega
    simp only [hn, decide_false, Bool.not_false, if_true, hpos]

end Numeral

/-- A whole number is written as its numeral. -/
lemma Number.text_integer (n : ℤ) : (Number.integer n).text = (Numeral.ofInt n).text := by
  simp only [Number.text, Int.toString_eq_repr, Int.repr_eq_if, Numeral.text, Numeral.ofInt,
    Numeral.fractionText, Numeral.exponentText, List.append_nil]
  by_cases hn : n < 0
  · have habs : (-n).toNat = n.natAbs := by omega
    simp [hn, not_le.mpr hn, Nat.repr, habs]
  · have habs : n.toNat = n.natAbs := by omega
    simp [hn, not_lt.mp hn, Nat.repr, habs]

end ChatBot.Json
