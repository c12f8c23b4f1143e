import Mathlib.Tactic
import ChatBot.Binary64.Layout
import ChatBot.Binary64.Reading
import ChatBot.Text.Blank
import ChatBot.Proofs.Json.Numeral

/-!
Whole numbers in text.

* `toList_toString`: a natural number is written as its digits, which are no blanks; an integer
  carries its sign in front (`toList_toString_int`);
* `digits_mul_pow_add`: behind other digits a number is written with zeros in front;
* `toInt64?_toString`: a whole number of 64 bits is read from its text.
-/

namespace ChatBot.Text

open Binary64 (digits zeros int64Min int64Max)

/-! ### Digits -/

lemma toList_toString (n : ℕ) : (toString n).toList = digits n := String.toList_ofList

lemma isBlank_eq_false_of_isDigit {c : Char} (h : isDigit c = true) : isBlank c = false := by
  simp only [isDigit, Bool.and_eq_true, decide_eq_true_eq, Char.le_def, UInt32.le_iff_toNat_le] at h
  have hlow : 48 ≤ c.toNat := h.1
  have hhigh : c.toNat ≤ 57 := h.2
  simp only [isBlank, blankRanges, Ranges.contains]
  grind

lemma lt_length_digits {k n : ℕ} (hk : 0 < k) (h : 10 ^ k ≤ n) : k < (digits n).length := by
  refine lt_of_not_ge fun hshort => h.not_gt ?_
  rwa [digits, Nat.length_toDigits_le_iff (by norm_num) hk] at hshort

lemma length_digits_of_lt {d : ℕ} (hd : d < 10) : (digits d).length = 1 := by
  rw [digits, Nat.toDigits_of_lt_base hd, List.length_singleton]

/-- A last digit is written behind the others. -/
lemma padded_digits_mul_add {w q d : ℕ} (hd : d < 10) :
    zeros (w + 1 + 1 - (digits (10 * q + d)).length) ++ digits (10 * q + d) =
      zeros (w + 1 - (digits q).length) ++ digits q ++ digits d := by
  rcases Nat.eq_zero_or_pos q with rfl | hq
  · -- the zero that stands for the other digits is one of those in front
    rw [Nat.mul_zero, Nat.zero_add, length_digits_of_lt hd, show digits 0 = zeros 1 from rfl, zeros,
      zeros, zeros, List.length_replicate, List.replicate_append_replicate]
    rfl
  · have hdigits : digits (10 * q + d) = digits q ++ digits d :=
      (Nat.toDigits_append_toDigits (by norm_num) hq hd).symm
    rw [hdigits, List.length_append, length_digits_of_lt hd, List.append_assoc,
      Nat.add_sub_add_right]

/-- Behind other digits a number is written with zeros in front. -/
lemma digits_mul_pow_add {m : ℕ} (hm : 0 < m) (w : ℕ) {n : ℕ} (hn : n < 10 ^ (w + 1)) :
    digits (10 ^ (w + 1) * m + n) =
      digits m ++ (zeros (w + 1 - (digits n).length) ++ digits n) := by
  induction w generalizing n with
  | zero =>
      have hn : n < 10 := by simpa using hn
      rw [length_digits_of_lt hn, pow_one]
      exact (Nat.toDigits_append_toDigits (by norm_num) hm hn).symm
  | succ w ih =>
      have hd : n % 10 < 10 := Nat.mod_lt n (by norm_num)
      have hq : n / 10 < 10 ^ (w + 1) := Nat.div_lt_of_lt_mul (by rwa [← pow_succ'])
      have hsplit : n = 10 * (n / 10) + n % 10 := (Nat.div_add_mod n 10).symm
      have hfront : 0 < 10 ^ (w + 1) * m + n / 10 := by positivity
      calc digits (10 ^ (w + 1 + 1) * m + n)
          = digits (10 * (10 ^ (w + 1) * m + n / 10) + n % 10) := by
            rw [pow_succ', mul_assoc, mul_add, add_assoc, Nat.div_add_mod]
        _ = digits (10 ^ (w + 1) * m + n / 10) ++ digits (n % 10) :=
            (Nat.toDigits_append_toDigits (by norm_num) hfront hd).symm
        _ = digits m ++ (zeros (w + 1 + 1 - (digits n).length) ++ digits n) := by
            rw [ih hq, List.append_assoc, List.append_assoc, ← List.append_assoc (zeros _),
              ← padded_digits_mul_add hd, ← hsplit]

/-! ### Integers -/

lemma takeSign_cons_of_isDigit {c : Char} (h : isDigit c = true) (cs : List Char) :
    takeSign (c :: cs) = (false, c :: cs) := by
  unfold takeSign
  split <;> simp_all [isDigit]

lemma takeSign_digits (n : ℕ) : takeSign (digits n) = (false, digits n) := by
  cases hds : digits n with
  | nil => rfl
  | cons c cs =>
      have hmem : c ∈ digits n := hds ▸ List.mem_cons_self
      exact takeSign_cons_of_isDigit (isDigit_of_mem_toDigits hmem) cs

/-- The digits of a number behind a sign are read as this number. -/
lemma int64OfText?_of_takeSign {cs : List Char} {negative : Bool} {n : ℕ}
    (hsign : takeSign cs = (negative, digits n))
    (hlow : int64Min ≤ if negative then -(n : ℤ) else n)
    (hhigh : (if negative then -(n : ℤ) else n) ≤ int64Max) :
    int64OfText? cs = some (if negative then -(n : ℤ) else n) := by
  have hne : (digits n).isEmpty = false := List.isEmpty_eq_false_iff.mpr Nat.toDigits_ne_nil
  have hall : (digits n).all isDigit = true := List.all_eq_true.mpr fun _ => isDigit_of_mem_toDigits
  have hnumber : numberOfDigits (digits n) = n := numberOfDigits_toDigits n
  simp only [int64OfText?, hsign, hne, hall, hnumber, Bool.not_true, Bool.or_false,
    Bool.false_eq_true, if_false, hlow, hhigh, decide_true, Bool.and_true, if_true]

/-- The text of an integer is its sign and its digits. -/
lemma toList_toString_int (n : ℤ) :
    (toString n).toList = (if n < 0 then ['-'] else []) ++ digits n.natAbs := by
  cases n with
  | ofNat n =>
      have hsign : ¬Int.ofNat n < 0 := not_lt.mpr (Int.natCast_nonneg n)
      rw [if_neg hsign]
      exact toList_toString n
  | negSucc n =>
      have htext : (toString (Int.negSucc n)).toList = '-' :: digits (n + 1) :=
        String.toList_append.trans (congrArg ('-' :: ·) (toList_toString (n + 1)))
      rw [if_pos (Int.negSucc_lt_zero n), htext]
      rfl

lemma toInt64?_toString {n : ℤ} (hlow : int64Min ≤ n) (hhigh : n ≤ int64Max) :
    (toString n).toInt64? = some n := by
  have hsign : takeSign (toString n).toList = (decide (n < 0), digits n.natAbs) := by
    rw [toList_toString_int]
    by_cases hn : n < 0
    · rw [if_pos hn, decide_eq_true hn]
      rfl
    · rw [if_neg hn, decide_eq_false hn]
      exact takeSign_digits n.natAbs
  have hvalue : (if decide (n < 0) then -(n.natAbs : ℤ) else n.natAbs) = n := by
    simp only [decide_eq_true_eq]
    split <;> omega
  have hread := int64OfText?_of_takeSign hsign (hvalue.symm ▸ hlow) (hvalue.symm ▸ hhigh)
  rwa [hvalue] at hread

end ChatBot.Text
