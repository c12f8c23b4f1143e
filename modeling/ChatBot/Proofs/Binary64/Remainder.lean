import ChatBot.Proofs.Binary64.Range

/-!
Finite numbers as nearest numbers and as remainders.

* `isFinite_nearest`: the number nearest to a quotient is finite if the quotient is at most the
  greatest number. The bits of an infinity are not reached: below the greatest exponent the rounded
  mantissa may carry over into the next one, at the greatest exponent it cannot;
* `isFinite_remainder`: a remainder is smaller than the coarser of the two numbers, so it needs no
  rounding beyond the greatest one.
-/

namespace ChatBot.Binary64

open Float.Model (UnpackedFloat Format)
open Float.Model.UnpackedFloat

/-! ### Bits -/

section

-- Powers are those of the core library, as in the definitions of `ofMagnitude` and `infiniteBits`.
attribute [local instance (high)] instPowNat

lemma infiniteBits_eq : infiniteBits = 2047 * 4503599627370496 := rfl

lemma zero_lt_infiniteBits : 0 < infiniteBits := by
  rw [infiniteBits_eq]
  norm_num

lemma toNat_unpackExponent_ofNat {b : ℕ} (h : b < 2 ^ (64 : ℕ)) :
    (@UnpackedFloat.unpackExponent Format.binary64 b.toUInt64.toBitVec).toNat =
      b / 4503599627370496 % 2048 := by
  simp [UnpackedFloat.unpackExponent, Nat.shiftRight_eq_div_pow]
  rw [Nat.mod_eq_of_lt h]

/-- Bits below those of an infinity stand for a finite number. -/
lemma isFinite_ofMagnitude (negative : Bool) {bits : ℕ} (h : bits < infiniteBits) :
    (ofMagnitude negative bits).isFinite = true := by
  refine InRange.isFinite_pack (inRange_unpack fun hmax => ?_)
  have hexponent := congrArg BitVec.toNat hmax
  have hlast : BitVec.toNat (-BitVec.ofNat Format.binary64.exponentBits 1) = 2047 := rfl
  rw [infiniteBits_eq] at h
  rw [hlast] at hexponent
  cases negative with
  | false =>
      rw [if_neg Bool.false_ne_true, toNat_unpackExponent_ofNat (by omega)] at hexponent
      omega
  | true =>
      rw [if_pos rfl, toNat_unpackExponent_ofNat (by omega)] at hexponent
      omega

/-- Exponent and mantissa of a finite number make up fewer bits than those of an infinity. -/
lemma bits_lt {k r : ℕ} (h : k < 2045 ∧ r ≤ 2 ^ (53 : ℕ) ∨ k = 2045 ∧ r ≤ 2 ^ (53 : ℕ) - 1) :
    k * 2 ^ (52 : ℕ) + r < infiniteBits := by
  rw [infiniteBits_eq]
  norm_num at h ⊢
  omega

end

/-! ### Nearest -/

lemma roundHalfEven_le {num den k : ℕ} (hden : 0 < den) (h : num ≤ k * den) :
    roundHalfEven num den ≤ k := by
  have hdiv := Nat.div_add_mod num den
  have hmod := Nat.mod_lt num hden
  simp only [roundHalfEven]
  rcases Nat.lt_or_ge (num / den) k with hlt | hge
  · split <;> omega
  · have heq : num / den = k := le_antisymm (Nat.div_le_of_le_mul (by rwa [mul_comm])) hge
    rw [heq, mul_comm] at hdiv
    have hzero : num % den = 0 := by omega
    rw [hzero, heq, if_neg (by simp [hden.ne])]

/-- In units of a power of two a quotient is the quotient by that power. -/
lemma scaleBy_le_iff {num den k : ℕ} {e : ℤ} :
    (scaleBy num den e).1 ≤ k * (scaleBy num den e).2 ↔
      (num : ℚ) ≤ k * den * (2 : ℚ) ^ e := by
  rcases le_or_gt 0 e with he | he
  · obtain ⟨n, rfl⟩ := Int.eq_ofNat_of_zero_le he
    rw [scaleBy, if_pos he, Int.toNat_natCast, zpow_natCast]
    simp only
    rw [← mul_assoc]
    exact_mod_cast Iff.rfl
  · obtain ⟨n, hn⟩ := Int.eq_ofNat_of_zero_le (neg_nonneg.mpr he.le)
    obtain rfl : e = -n := by omega
    rw [scaleBy, if_neg he.not_ge, neg_neg, Int.toNat_natCast, zpow_neg, zpow_natCast,
      ← div_eq_mul_inv, le_div_iff₀ (by positivity)]
    exact_mod_cast Iff.rfl

lemma scaleBy_pos {num den : ℕ} {e : ℤ} (hden : 0 < den) : 0 < (scaleBy num den e).2 := by
  rw [scaleBy]
  split
  · exact Nat.mul_pos hden (Nat.two_pow_pos _)
  · exact hden

lemma lt_zpow_log2 {num den : ℕ} (hden : 0 < den) :
    (num : ℚ) < den * (2 : ℚ) ^ ((num.log2 : ℤ) - den.log2 + 1) := by
  have hnum : (num : ℚ) < 2 ^ (num.log2 + 1) := by exact_mod_cast Nat.lt_log2_self
  have hlog : (2 : ℚ) ^ den.log2 ≤ den := by exact_mod_cast Nat.log2_self_le hden.ne'
  calc (num : ℚ) < 2 ^ (num.log2 + 1) := hnum
    _ = 2 ^ den.log2 * (2 : ℚ) ^ ((num.log2 : ℤ) - den.log2 + 1) := by
        rw [← zpow_natCast, ← zpow_natCast, ← zpow_add₀ two_ne_zero]
        congr 1
        push_cast
        ring
    _ ≤ den * (2 : ℚ) ^ ((num.log2 : ℤ) - den.log2 + 1) :=
        mul_le_mul_of_nonneg_right hlog (by positivity)

/-- The unit is such that no more than `2 ^ 53` of it make up the quotient. -/
lemma le_unitExponent {num den : ℕ} (hden : 0 < den) :
    (num : ℚ) ≤ (2 ^ 53 : ℕ) * den * (2 : ℚ) ^ unitExponent num den := by
  simp only [unitExponent]
  split
  · next hlt =>
    exact scaleBy_le_iff.mp (by rw [mul_comm]; exact hlt.le)
  · have hexponent : (num.log2 : ℤ) - den.log2 + 1 ≤
        53 + (max ((num.log2 : ℤ) - den.log2 - 53) (-1074) + 1) := by omega
    refine (lt_zpow_log2 hden).le.trans ?_
    rw [mul_comm ((2 ^ 53 : ℕ) : ℚ), mul_assoc]
    refine mul_le_mul_of_nonneg_left ?_ (by positivity)
    rw [Nat.cast_pow, Nat.cast_ofNat, ← zpow_natCast, ← zpow_add₀ two_ne_zero]
    exact zpow_le_zpow_right₀ one_le_two hexponent

lemma unitExponent_ge {num den : ℕ} : -1074 ≤ unitExponent num den := by
  simp only [unitExponent]
  split <;> omega

/-- What is at most the greatest number is measured in units of binary64. -/
lemma unitExponent_le {num den : ℕ} (hnum : 0 < num) (hden : 0 < den)
    (h : (num : ℚ) ≤ (2 ^ 53 - 1 : ℕ) * den * (2 : ℚ) ^ (971 : ℤ)) :
    unitExponent num den ≤ 971 := by
  have hlog : num.log2 < den.log2 + 1025 := by
    have hlow : (2 : ℚ) ^ num.log2 ≤ num := by exact_mod_cast Nat.log2_self_le hnum.ne'
    have hhigh : (den : ℚ) < 2 ^ (den.log2 + 1) := by exact_mod_cast Nat.lt_log2_self
    have hpow : (2 : ℚ) ^ num.log2 < 2 ^ (den.log2 + 1025) := by
      calc (2 : ℚ) ^ num.log2 ≤ (2 ^ 53 - 1 : ℕ) * den * (2 : ℚ) ^ (971 : ℤ) := hlow.trans h
        _ ≤ 2 ^ 53 * den * (2 : ℚ) ^ (971 : ℤ) := by gcongr; norm_num
        _ < 2 ^ 53 * 2 ^ (den.log2 + 1) * (2 : ℚ) ^ (971 : ℤ) := by gcongr
        _ = 2 ^ (den.log2 + 1025) := by
            rw [← zpow_natCast, ← zpow_natCast, ← zpow_natCast, ← zpow_add₀ two_ne_zero,
              ← zpow_add₀ two_ne_zero]
            congr 1
            push_cast
            ring
    exact (pow_lt_pow_iff_right₀ one_lt_two).mp hpow
  simp only [unitExponent]
  split
  · omega
  · next hge =>
    -- in units of `2 ^ 971` the quotient is below `2 ^ 53`
    have hne : max ((num.log2 : ℤ) - den.log2 - 53) (-1074) ≠ 971 := by
      intro heq
      rw [heq] at hge
      have hle := scaleBy_le_iff.mpr h
      have hpos : 0 < (scaleBy num den 971).2 := scaleBy_pos hden
      omega
    omega

/-- What is at most the greatest number is rounded to a finite one. -/
lemma isFinite_nearest (negative : Bool) {num den : ℕ} (hden : 0 < den)
    (h : (num : ℚ) ≤ (2 ^ 53 - 1 : ℕ) * den * (2 : ℚ) ^ (971 : ℤ)) :
    (nearest negative num den).isFinite = true := by
  unfold nearest
  by_cases hnum : num = 0
  · rw [if_pos hnum]
    exact isFinite_ofMagnitude negative zero_lt_infiniteBits
  · rw [if_neg hnum]
    -- `e` is kept opaque, since the bits are too large to be computed by unfolding
    obtain ⟨e, he⟩ : ∃ e, unitExponent num den = e := ⟨_, rfl⟩
    have hlow : -1074 ≤ e := he ▸ unitExponent_ge
    have hhigh : e ≤ 971 := he ▸ unitExponent_le (Nat.pos_of_ne_zero hnum) hden h
    have hunit : (num : ℚ) ≤ (2 ^ 53 : ℕ) * den * (2 : ℚ) ^ e := he ▸ le_unitExponent hden
    have hd : 0 < (scaleBy num den e).2 := scaleBy_pos hden
    have hround : (e + 1074).toNat < 2045 ∧
          roundHalfEven (scaleBy num den e).1 (scaleBy num den e).2 ≤ 2 ^ 53 ∨
        (e + 1074).toNat = 2045 ∧
          roundHalfEven (scaleBy num den e).1 (scaleBy num den e).2 ≤ 2 ^ 53 - 1 := by
      rcases hhigh.lt_or_eq with hlt | rfl
      · exact .inl ⟨by omega, roundHalfEven_le hd (scaleBy_le_iff.mpr hunit)⟩
      · exact .inr ⟨rfl, roundHalfEven_le hd (scaleBy_le_iff.mpr h)⟩
    rw [he]
    dsimp only
    generalize scaleBy num den e = p at hround ⊢
    obtain ⟨n, d⟩ := p
    exact isFinite_ofMagnitude negative ((Nat.min_le_left _ _).trans_lt (bits_lt hround))

lemma isFinite_ofScaled (negative : Bool) {m : ℕ} {e : ℤ} (hm : m < 2 ^ 53) (he : e ≤ 971) :
    (ofScaled negative m e).isFinite = true := by
  have hmantissa : (m : ℚ) ≤ (2 ^ 53 - 1 : ℕ) := by exact_mod_cast Nat.le_sub_one_of_lt hm
  rw [ofScaled]
  split
  · next hpos =>
    refine isFinite_nearest negative Nat.one_pos ?_
    have hpow : (2 : ℚ) ^ e.toNat ≤ 2 ^ (971 : ℤ) := by
      rw [← zpow_natCast]
      exact zpow_le_zpow_right₀ one_le_two (by omega)
    rw [Nat.cast_mul, Nat.cast_pow, Nat.cast_two, Nat.cast_one, mul_one]
    gcongr
  · refine isFinite_nearest negative (Nat.two_pow_pos _) ?_
    have hden : (1 : ℚ) ≤ (2 ^ (-e).toNat : ℕ) := by exact_mod_cast Nat.one_le_two_pow
    have hunit : (1 : ℚ) ≤ 2 ^ (971 : ℤ) := one_le_zpow₀ one_le_two (Int.natCast_nonneg 971)
    calc (m : ℚ) ≤ (2 ^ 53 - 1 : ℕ) * 1 * 1 := by
          rw [mul_one, mul_one]
          exact hmantissa
      _ ≤ (2 ^ 53 - 1 : ℕ) * (2 ^ (-e).toNat : ℕ) * (2 : ℚ) ^ (971 : ℤ) := by
          gcongr

/-! ### Remainders -/

/-- The remainder of a division by a number that is not zero is finite: it is smaller than the
divisor, and than the dividend where that is the finer one. -/
lemma isFinite_remainder {x y : Float} {negative negative' : Bool} {m n : ℕ} {e f : ℤ}
    (hx : parts x = .finite negative m e) (hy : parts y = .finite negative' n f) (hn : n ≠ 0) :
    (remainder x y).isFinite = true := by
  obtain ⟨hm', -, he⟩ := parts_bounds hx
  obtain ⟨hn', -, -⟩ := parts_bounds hy
  simp only [remainder, hx, hy]
  rw [if_neg hn]
  refine isFinite_ofScaled negative ?_ ((min_le_left e f).trans he)
  rcases le_total e f with hle | hle
  · rw [min_eq_left hle, sub_self, Int.toNat_zero, pow_zero, mul_one]
    exact (Nat.mod_le _ _).trans_lt hm'
  · rw [min_eq_right hle, sub_self, Int.toNat_zero, pow_zero, mul_one]
    exact (Nat.mod_lt _ (Nat.pos_of_ne_zero hn)).trans hn'

lemma toNat_unpackMantissa (x : Float) :
    (@UnpackedFloat.unpackMantissa Format.binary64 x.toModel.toBits.toBitVec).toNat =
      x.toBits.toNat % 2 ^ 52 := by
  simp [UnpackedFloat.unpackMantissa]
  rfl

/-- A number without a mantissa equals zero. -/
lemma beq_zero_of_parts {x : Float} {negative : Bool} {e : ℤ} (h : parts x = .finite negative 0 e) :
    (x == 0) = true := by
  have hexponent := toNat_unpackExponent x
  have hmantissa := toNat_unpackMantissa x
  simp only [parts] at h
  split at h
  · split at h
    · simp at h
    · simp at h
  · split at h
    · next hzero =>
      obtain ⟨-, hfraction, -⟩ := Parts.finite.inj h
      have hunpack : ∃ s, x.toModel.unpack = .zero s := by
        simp only [Float.Model.unpack, unpack]
        have hexponent' : @unpackExponent Format.binary64 x.toModel.toBits.toBitVec = 0#_ :=
          BitVec.eq_of_toNat_eq (hexponent.trans hzero)
        have hmantissa' : @unpackMantissa Format.binary64 x.toModel.toBits.toBitVec = 0#_ :=
          BitVec.eq_of_toNat_eq (hmantissa.trans hfraction)
        rw [if_neg (by rw [hexponent']; decide), if_pos hexponent', dif_pos hmantissa']
        exact ⟨_, rfl⟩
      obtain ⟨s, hs⟩ := hunpack
      rw [beq_zero, hs]
      rfl
    · obtain ⟨-, hfraction, -⟩ := Parts.finite.inj h
      omega

end ChatBot.Binary64
