import ChatBot.Binary64.Reading
import ChatBot.Proofs.Binary64.Exact
import ChatBot.Proofs.Text.Blank
import ChatBot.Proofs.Text.Integer
import ChatBot.Proofs.Text.LetterCase

/-!
Decimals as text.

* `nearest_of_large`, `nearest_of_small`: quotients beyond all numbers and
  below half of the least one;
* `ofDecimal_neg`: so the number of a decimal is the nearest one, also where it is settled
  by the count of digits alone;
* `Literal`: digits with at most one point among them, and at least one digit. `Literal.value` is
  the number nearest to the quotient that they stand for;
* `Literal.ofText?_text`: a literal is read as its value;
* `exactly_ofText?_digits`: the digits of a whole number of 53 bits are read without an error.
-/

namespace ChatBot.Binary64

open ChatBot.Text

variable {n den : ℕ} {c : Char} {cs : List Char}

/-! ### Nearest numbers -/

section

-- Powers are those of the core library, as in the definitions of `nearest` and `ofDecimal`.
attribute [local instance (high)] instPowNat

/-- Too large a whole number becomes an infinity. -/
lemma nearest_of_large (negative : Bool) (h : 1100 < n.log2) :
    nearest negative n 1 = infinity negative := by
  have hne : n ≠ 0 := by
    rintro rfl
    rw [Nat.log2_zero] at h
    omega
  obtain ⟨e, he⟩ : ∃ e, unitExponent n 1 = e := ⟨_, rfl⟩
  have hlarge : 1047 < e := by
    have hone : Nat.log2 1 = 0 := by decide
    rw [← he]
    simp only [unitExponent, hone]
    split <;> omega
  have hbits (r : ℕ) : infiniteBits ≤ (e + 1074).toNat * 2 ^ 52 + r := by
    rw [infiniteBits_eq]
    omega
  rw [nearest, if_neg hne, he]
  simp only [Nat.min_eq_right (hbits _), infinity]

/-- Less than half of the least number becomes zero. -/
lemma nearest_of_small (negative : Bool) {k : ℕ} (hk : k = 1074) (h : n * 2 ^ (k + 1) < den) :
    nearest negative n den = ofMagnitude negative 0 := by
  rcases Nat.eq_zero_or_pos n with rfl | hpos
  · rw [nearest, if_pos rfl]
  · have hlog : n.log2 + (k + 1) ≤ den.log2 := by
      rw [Nat.le_log2 (by omega), Nat.pow_add]
      exact (Nat.mul_le_mul_right _ (Nat.log2_self_le hpos.ne')).trans h.le
    rw [Nat.pow_succ, ← Nat.mul_assoc] at h
    have hscale : scaleBy n den (-k) = (n * 2 ^ k, den) := scaleBy_neg n den k
    have hunit : unitExponent n den = -k := by
      have hleast : max ((n.log2 : ℤ) - den.log2 - 53) (-1074) = -k := by omega
      simp only [unitExponent, hleast, hscale]
      exact if_pos (by omega)
    have hround : roundHalfEven (n * 2 ^ k) den = 0 := by
      have hlt : n * 2 ^ k < den := by omega
      simp only [roundHalfEven, Nat.div_eq_of_lt hlt, Nat.mod_eq_of_lt hlt]
      exact if_neg (by simp; omega)
    rw [nearest, if_neg hpos.ne', hunit]
    simp only [hscale, hround]
    exact congrArg (ofMagnitude negative) (by simp [hk])

/-- The number of a decimal is the one nearest to it. -/
lemma ofDecimal_neg (negative : Bool) (n k : ℕ) :
    ofDecimal negative n (-k) = nearest negative n (10 ^ k) := by
  rcases Nat.eq_zero_or_pos n with rfl | hpos
  · rw [nearest, if_pos rfl, ofDecimal, if_pos rfl]
  rw [ofDecimal, if_neg hpos.ne']
  rcases Nat.eq_zero_or_pos k with rfl | hk
  · by_cases hlarge : 1100 < n.log2
    · rw [if_pos (by simp; omega), Nat.pow_zero, nearest_of_large negative hlarge]
    · rw [if_neg (by simp; omega), if_neg (by simp), if_pos (by simp)]
      simp
  · have hneg : ¬(0 : ℤ) ≤ -k := by omega
    rw [if_neg (by simp; omega)]
    by_cases hsmall : (n.log2 : ℤ) + 1 + 3 * -k < -1100
    · obtain ⟨place, hplace⟩ : ∃ place, place = 1074 := ⟨_, rfl⟩
      have hlt : n * 2 ^ (place + 1) < 10 ^ k := by
        calc n * 2 ^ (place + 1) < 2 ^ (n.log2 + 1) * 2 ^ (place + 1) :=
              Nat.mul_lt_mul_of_pos_right Nat.lt_log2_self (Nat.two_pow_pos _)
          _ = 2 ^ (n.log2 + 1 + (place + 1)) := (Nat.pow_add 2 _ _).symm
          _ ≤ 2 ^ (3 * k) := Nat.pow_le_pow_right (by norm_num) (by omega)
          _ = 8 ^ k := Nat.pow_mul 2 3 k
          _ ≤ 10 ^ k := Nat.pow_le_pow_left (by norm_num) k
      rw [nearest_of_small negative hplace hlt, if_pos (by simp; omega)]
    · rw [if_neg (by simp; omega), if_neg hneg, neg_neg, Int.toNat_natCast]

end

/-! ### Literals -/

/-- Digits with at most one point among them, and at least one digit. The fraction is the digits
behind the point, if there is one. -/
structure Literal where
  whole : List Char
  fraction : Option (List Char)
  isDigit_of_mem : ∀ c ∈ whole ++ fraction.getD [], isDigit c = true
  ne_nil : whole ++ fraction.getD [] ≠ []

/-- A literal starts with a digit or with its point. -/
def StartsLiteral (c : Char) : Prop := (isDigit c || c == '.') = true

namespace Literal

/-- The digits behind the point. -/
def places (l : Literal) : List Char := l.fraction.getD []

/-- The point, if there is one, and the digits behind it. -/
def tail (l : Literal) : List Char := l.fraction.elim [] ('.' :: ·)

/-- The characters of a literal. -/
def text (l : Literal) : List Char := l.whole ++ l.tail

/-- The number nearest to a literal: to all its digits, divided by ten for
each one behind the point. -/
def value (l : Literal) : Float :=
  nearest false (numberOfDigits (l.whole ++ l.places)) (10 ^ l.places.length)

lemma isDigit_of_mem_whole (l : Literal) : ∀ c ∈ l.whole, isDigit c = true := fun c hc =>
  l.isDigit_of_mem c (List.mem_append_left _ hc)

lemma isDigit_of_mem_places (l : Literal) : ∀ c ∈ l.places, isDigit c = true := fun c hc =>
  l.isDigit_of_mem c (List.mem_append_right _ hc)

lemma exists_text_eq_cons (l : Literal) : ∃ c cs, l.text = c :: cs ∧ StartsLiteral c := by
  unfold text
  cases hwhole : l.whole with
  | nil =>
      cases hfraction : l.fraction with
      | none => exact absurd (by rw [hwhole, hfraction]; rfl) l.ne_nil
      | some ds => exact ⟨'.', ds, by rw [tail, hfraction]; rfl, rfl⟩
  | cons c cs =>
      have hc : isDigit c = true := l.isDigit_of_mem_whole c (by simp [hwhole])
      exact ⟨c, cs ++ l.tail, rfl, by simp [StartsLiteral, hc]⟩

/-- A point stands behind the digits before it, or nothing does. -/
lemma head?_tail (l : Literal) : ∀ c ∈ l.tail.head?, isDigit c = false := by
  unfold tail
  cases l.fraction with
  | none => simp
  | some ds => simpa using show isDigit '.' = false by decide

end Literal

lemma isDigit_foldAscii (c : Char) : isDigit (foldAscii c) = isDigit c :=
  foldAscii_induct (P := fun d c => isDigit d = isDigit c) (fun _ => rfl) (by decide) c

lemma foldAscii_eq_point (c : Char) : (foldAscii c == '.') = (c == '.') :=
  foldAscii_induct (P := fun d c => (d == '.') = (c == '.')) (fun _ => rfl) (by decide) c

lemma StartsLiteral.takeSign (hc : StartsLiteral c) (cs : List Char) :
    takeSign (c :: cs) = (false, c :: cs) := by
  unfold Text.takeSign
  split <;> simp_all [StartsLiteral, isDigit]

/-- What starts like a literal is none of the words for numbers. -/
lemma StartsLiteral.ofText? (hc : StartsLiteral c) (cs : List Char) :
    ofText? (c :: cs) = unsignedOfText? false (c :: cs) := by
  have hword (w : String) (hw : w.toList.head?.any (fun d => isDigit d || d == '.') = false) :
      (String.ofList ((c :: cs).map foldAscii) == w) = false := by
    refine beq_eq_false_iff_ne.mpr fun heq => ?_
    rw [← heq, String.toList_ofList, List.map_cons, List.head?_cons, Option.any_some,
      isDigit_foldAscii, foldAscii_eq_point, hc] at hw
    cases hw
  unfold Binary64.ofText?
  rw [hc.takeSign]
  simp only [hword "inf" (by decide), hword "infinity" (by decide), hword "nan" (by decide),
    Bool.or_false, Bool.false_eq_true, if_false]

namespace Literal

/-- The digits of a literal before its point and behind it are found. -/
lemma unsignedOfText?_text (l : Literal) : unsignedOfText? false l.text = some l.value := by
  have htake : l.text.takeWhile isDigit = l.whole :=
    takeWhile_run l.isDigit_of_mem_whole l.head?_tail
  have hdrop : l.text.dropWhile isDigit = l.tail :=
    dropWhile_run l.isDigit_of_mem_whole l.head?_tail
  have hplaces : l.places.takeWhile isDigit = l.places ∧ l.places.dropWhile isDigit = [] :=
    ⟨List.takeWhile_eq_self_iff.mpr l.isDigit_of_mem_places,
      List.dropWhile_eq_nil_iff.mpr l.isDigit_of_mem_places⟩
  have hsome : (l.whole.isEmpty && l.places.isEmpty) = false := by
    simpa [places] using l.ne_nil
  have hvalue : ofDecimal false (numberOfDigits (l.whole ++ l.places)) (0 - l.places.length) =
      l.value := by
    rw [zero_sub, ofDecimal_neg, value]
  unfold unsignedOfText?
  simp only [htake, hdrop]
  cases hfraction : l.fraction with
  | none =>
      have htail : l.tail = [] := by rw [tail, hfraction]; rfl
      have hnone : l.places = [] := by rw [places, hfraction]; rfl
      rw [hnone] at hsome hvalue
      simp only [htail, hsome, Bool.false_eq_true, if_false, exponentOfText?, Option.map_some,
        hvalue]
  | some ds =>
      have htail : l.tail = '.' :: ds := by rw [tail, hfraction]; rfl
      obtain rfl : l.places = ds := by rw [places, hfraction]; rfl
      simp only [htail, hplaces, hsome, Bool.false_eq_true, if_false, exponentOfText?,
        Option.map_some, hvalue]

/-- A literal is read as its value. -/
lemma ofText?_text (l : Literal) : ofText? l.text = some l.value := by
  obtain ⟨c, cs, htext, hc⟩ := l.exists_text_eq_cons
  rw [htext, hc.ofText?, ← htext, unsignedOfText?_text]

/-- The digits of a whole number. -/
def ofNat (n : ℕ) : Literal where
  whole := digits n
  fraction := none
  isDigit_of_mem := by
    rw [Option.getD_none, List.append_nil]
    exact fun _ => isDigit_of_mem_toDigits
  ne_nil := List.append_ne_nil_of_left_ne_nil Nat.toDigits_ne_nil _

lemma text_ofNat (n : ℕ) : (ofNat n).text = digits n := List.append_nil _

lemma value_ofNat (n : ℕ) : (ofNat n).value = nearest false n 1 := by
  have hnumber : numberOfDigits (digits n ++ []) = n := by
    rw [List.append_nil]
    exact numberOfDigits_toDigits n
  exact congrArg (nearest false · 1) hnumber

end Literal

lemma exactly_ofText?_digits (h : n < 2 ^ 53) : ∃ x, ofText? (digits n) = some x ∧ Exactly x n := by
  refine ⟨nearest false n 1, ?_, exactly_nearest h⟩
  rw [← Literal.text_ofNat, Literal.ofText?_text, Literal.value_ofNat]

end ChatBot.Binary64
