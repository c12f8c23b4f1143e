import Mathlib
import ChatBot.Proofs.Binary64.Parts

/-!
Finite numbers as the results of arithmetic.

A number taken apart has a sign, a mantissa and an exponent, and is put together again by rounding.

* `InRange`: the exponent is one of binary64, so that putting the number
  together gives a finite one;
* `inRange_roundWithAccuracy`: what is at most the greatest number is rounded to one in range;
* `isFinite_neg`, `isFinite_add`: the negative of a finite number and the sum of two finite numbers
  of different sign are finite. Other sums may be beyond the greatest number.
-/

namespace ChatBot.Binary64

open Float.Model (UnpackedFloat Format totalExponent)
open Float.Model.UnpackedFloat

/-- The number is zero, or its exponent is one of binary64. -/
def InRange : UnpackedFloat → Prop
  | .zero _ => True
  | .finite _ _ e _ => e ≤ 971
  | _ => False

/-- The greatest number, in units of the least one. -/
def greatest : ℕ := (2 ^ 53 - 1) * 2 ^ 2045

/-- A mantissa of 53 bits with an exponent of binary64 makes up no larger number. -/
lemma mul_le_greatest {m : ℕ} {e : ℤ} (hm : m < 2 ^ 53) (he : e ≤ 971) :
    m * 2 ^ (e + 1074).toNat ≤ greatest := by
  have hexponent : (e + 1074).toNat ≤ 2045 := by omega
  rw [greatest]
  gcongr
  · exact Nat.le_sub_one_of_lt hm
  · norm_num

lemma greatest_lt : greatest < 2 ^ 53 * 2 ^ 2045 := by
  rw [greatest]
  gcongr
  norm_num

/-! ### Rounding -/

/-- Digits that are shifted out leave a mark unless they are all zero. -/
lemma shiftRight_spec (m k : ℕ) :
    ((ExtendedMantissa.mk m false false) >>> k).mantissa = m / 2 ^ k ∧
      (m % 2 ^ k = 0 → ((ExtendedMantissa.mk m false false) >>> k).roundBit = false ∧
        ((ExtendedMantissa.mk m false false) >>> k).stickyBit = false) := by
  induction k with
  | zero => exact ⟨(Nat.div_one m).symm, fun _ => ⟨rfl, rfl⟩⟩
  | succ k ih =>
      obtain ⟨hmantissa, hbits⟩ := ih
      have hstep : (ExtendedMantissa.mk m false false) >>> (k + 1) =
          ((ExtendedMantissa.mk m false false) >>> k).shiftRightOne := rfl
      have hhalf : m / 2 ^ (k + 1) = m / 2 ^ k / 2 := by rw [pow_succ, Nat.div_div_eq_div_mul]
      rw [hstep]
      refine ⟨?_, fun hzero => ?_⟩
      · rw [hhalf, ← hmantissa]
        rfl
      · rw [pow_succ, Nat.mod_mul] at hzero
        obtain ⟨hround, hsticky⟩ := hbits (by omega)
        have heven : m / 2 ^ k % 2 = 0 := by
          have := Nat.two_pow_pos k
          rcases Nat.add_eq_zero_iff.mp hzero with ⟨-, hprod⟩
          rcases Nat.mul_eq_zero.mp hprod with h | h
          · omega
          · exact h
        simp only [ExtendedMantissa.shiftRightOne, hmantissa, heven, hround, hsticky]
        exact ⟨rfl, rfl⟩

lemma roundedMantissa_le {m k n : ℕ} (h : m ≤ n * 2 ^ k) :
    ((ExtendedMantissa.mk m false false) >>> k).roundedMantissa ≤ n := by
  obtain ⟨hmantissa, hbits⟩ := shiftRight_spec m k
  generalize (ExtendedMantissa.mk m false false) >>> k = em at hmantissa hbits
  obtain ⟨mantissa, round, sticky⟩ := em
  simp only at hmantissa hbits
  rcases h.lt_or_eq with hlt | rfl
  · have hbelow : m / 2 ^ k < n := (Nat.div_lt_iff_lt_mul (Nat.two_pow_pos k)).mpr hlt
    cases round <;> cases sticky <;>
      simp only [ExtendedMantissa.roundedMantissa, ExtendedMantissa.accuracy,
        Accuracy.roundToNearestEven] <;> omega
  · obtain ⟨rfl, rfl⟩ := hbits (Nat.mul_mod_left n _)
    rw [Nat.mul_div_cancel _ (Nat.two_pow_pos k)] at hmantissa
    exact hmantissa.le

/-- The exponent that a number should have. -/
lemma targetExponent_eq (m : ℕ) (e : ℤ) :
    Format.binary64.targetExponent (totalExponent m e) = max (m.log2 + e - 52) (-1074) := by
  simp only [Format.targetExponent, totalExponent, Format.mantissaBits, Format.minExponent]
  norm_num
  omega

lemma snd_shiftToTargetExponent (m : ℕ) (e : ℤ) :
    (shiftToTargetExponent Format.binary64 m e .exact).2 =
      max e (max (m.log2 + e - 52) (-1074)) := by
  rw [shiftToTargetExponent, targetExponent_eq, shiftToExponent]
  omega

lemma log2_le_of_le {m n : ℕ} (h : m ≤ n) : m.log2 ≤ n.log2 := by
  rw [Nat.log2_eq_log_two, Nat.log2_eq_log_two]
  exact Nat.log_mono_right h

/-- What is at most the greatest number is rounded to no larger one. -/
lemma inRange_roundWithAccuracy (s : Sign) {m : ℕ} {e : ℤ} (hlow : -1074 ≤ e) (he : e ≤ 971)
    (hm : m * 2 ^ (e + 1074).toNat ≤ greatest) :
    InRange (roundWithAccuracy Format.binary64 s m e .exact) := by
  -- `t` is the exponent after the first shift, by `k` places, and `r` the rounded mantissa
  obtain ⟨k, hk⟩ : ∃ k : ℕ, max e (max (m.log2 + e - 52) (-1074)) = e + k :=
    ⟨(max e (max ((m.log2 : ℤ) + e - 52) (-1074)) - e).toNat, by omega⟩
  have ht := snd_shiftToTargetExponent m e
  rw [hk] at ht
  have hfirst : (shiftToTargetExponent Format.binary64 m e .exact).1 =
      (ExtendedMantissa.mk m false false) >>> k := by
    rw [shiftToTargetExponent, targetExponent_eq, shiftToExponent]
    have hshift : (max ((m.log2 : ℤ) + e - 52) (-1074) - e).toNat = k := by omega
    simp only [hshift]
    rfl
  have hlog : m.log2 + e ≤ 1023 := by
    rcases Nat.eq_zero_or_pos m with rfl | hpos
    · simp only [Nat.log2_zero]
      omega
    · have hpow : 2 ^ (m.log2 + (e + 1074).toNat) < 2 ^ (53 + 2045) := by
        rw [pow_add, pow_add]
        calc 2 ^ m.log2 * 2 ^ (e + 1074).toNat
            ≤ m * 2 ^ (e + 1074).toNat :=
              Nat.mul_le_mul_right _ (Nat.log2_self_le hpos.ne')
          _ ≤ greatest := hm
          _ < 2 ^ 53 * 2 ^ 2045 := greatest_lt
      have := (Nat.pow_lt_pow_iff_right Nat.one_lt_two).mp hpow
      omega
  have hround : ((ExtendedMantissa.mk m false false) >>> k).roundedMantissa.log2 + (e + k) ≤
      1023 := by
    rcases lt_or_eq_of_le (show e + k ≤ 971 by omega) with hsmall | hlarge
    · have hle : m ≤ 2 ^ 53 * 2 ^ k := by
        rw [← pow_add]
        exact (Nat.lt_log2_self.trans_le (Nat.pow_le_pow_right Nat.two_pos (by omega))).le
      have hr := log2_le_of_le (roundedMantissa_le hle)
      rw [Nat.log2_two_pow] at hr
      omega
    · have hle : m ≤ (2 ^ 53 - 1) * 2 ^ k := by
        have hsplit : 2045 = k + (e + 1074).toNat := by omega
        rw [greatest, hsplit, pow_add, ← mul_assoc] at hm
        exact Nat.le_of_mul_le_mul_right hm (Nat.two_pow_pos _)
      have hr := log2_le_of_le (roundedMantissa_le hle)
      have hmax : (2 ^ 53 - 1 : ℕ).log2 = 52 := by decide +kernel
      rw [hmax] at hr
      omega
  rw [roundWithAccuracy]
  simp only [hfirst, ht]
  split
  · trivial
  · simp only [InRange, snd_shiftToTargetExponent]
    omega

/-- A mantissa that is moved to a smaller exponent stands for the same number. -/
lemma decreaseExponent_spec (m : ℕ) {e t : ℤ} (ht : -1074 ≤ t) (he : -1074 ≤ e) :
    (decreaseExponent m e t).2 = min e t ∧
      (decreaseExponent m e t).1 * 2 ^ (min e t + 1074).toNat = m * 2 ^ (e + 1074).toNat := by
  have hsum : (e - t).toNat + (min e t + 1074).toNat = (e + 1074).toNat := by omega
  refine ⟨?_, ?_⟩
  · simp only [decreaseExponent]
    omega
  · rw [decreaseExponent, Nat.shiftLeft_eq, mul_assoc, ← pow_add, hsum]

lemma inRange_round (s : Sign) {m : ℕ} {e : ℤ} (hlow : -1074 ≤ e) (he : e ≤ 971)
    (hm : m * 2 ^ (e + 1074).toNat ≤ greatest) :
    InRange (UnpackedFloat.round Format.binary64 s m e) := by
  rw [UnpackedFloat.round, targetExponent_eq]
  obtain ⟨hexponent, hvalue⟩ := decreaseExponent_spec m (t := max (m.log2 + e - 52) (-1074))
    (le_max_right _ _) hlow
  generalize decreaseExponent m e (max (m.log2 + e - 52) (-1074)) = moved at hexponent hvalue
  obtain ⟨mantissa, exponent⟩ := moved
  obtain rfl : exponent = _ := hexponent
  exact inRange_roundWithAccuracy s (le_min hlow (le_max_right _ _)) ((min_le_left _ _).trans he)
    (hvalue.trans_le hm)

lemma inRange_normalize (s : Sign) {z e : ℤ} (hlow : -1074 ≤ e) (he : e ≤ 971)
    (hz : z.natAbs * 2 ^ (e + 1074).toNat ≤ greatest) :
    InRange (UnpackedFloat.normalize Format.binary64 z e s) := by
  rw [UnpackedFloat.normalize]
  split
  · next hneg =>
    have habs : (-z).toNat = z.natAbs := by
      have := Int.compare_eq_lt.mp hneg
      omega
    rw [habs]
    exact inRange_round _ hlow he hz
  · trivial
  · next hpos =>
    have habs : z.toNat = z.natAbs := by
      have := Int.compare_eq_gt.mp hpos
      omega
    rw [habs]
    exact inRange_round _ hlow he hz

/-- The sum of two numbers of different sign is no larger than both of them. -/
lemma inRange_add {s t : Sign} {m n : ℕ} {e f : ℤ} {hm : 0 < m} {hn : 0 < n} (hst : s ≠ t)
    (hm' : m < 2 ^ 53) (hn' : n < 2 ^ 53) (he : -1074 ≤ e) (hf : -1074 ≤ f) (he' : e ≤ 971)
    (hf' : f ≤ 971) :
    InRange (UnpackedFloat.add Format.binary64 (.finite s m e hm) (.finite t n f hn)) := by
  rw [UnpackedFloat.add]
  obtain ⟨-, hleft⟩ := decreaseExponent_spec m (le_min he hf) he
  obtain ⟨-, hright⟩ := decreaseExponent_spec n (le_min he hf) hf
  rw [min_eq_right (min_le_left e f)] at hleft
  rw [min_eq_right (min_le_right e f)] at hright
  simp only
  generalize (decreaseExponent m e (min e f)).1 = p at hleft ⊢
  generalize (decreaseExponent n f (min e f)).1 = q at hright ⊢
  refine inRange_normalize _ (le_min he hf) ((min_le_left e f).trans he') ?_
  have habs : (s.apply p + t.apply q).natAbs ≤ max p q := by
    cases s <;> cases t
    · exact absurd rfl hst
    · simp only [Sign.apply]
      omega
    · simp only [Sign.apply]
      omega
    · exact absurd rfl hst
  calc (s.apply p + t.apply q).natAbs * 2 ^ (min e f + 1074).toNat
      ≤ max p q * 2 ^ (min e f + 1074).toNat := Nat.mul_le_mul_right _ habs
    _ ≤ greatest := by
        rcases le_total p q with hpq | hpq
        · rw [max_eq_right hpq, hright]
          exact mul_le_greatest hn' hf'
        · rw [max_eq_left hpq, hleft]
          exact mul_le_greatest hm' he'

/-! ### Packing -/

lemma inRange_unpack {b : BitVec Format.binary64.numBits} (h : unpackExponent b ≠ -1#_) :
    InRange (unpack Format.binary64 b) := by
  have hlt : (@unpackExponent Format.binary64 b).toNat ≠ 2047 :=
    fun hmax => h (BitVec.eq_of_toNat_eq hmax)
  have hbits := (@unpackExponent Format.binary64 b).isLt
  simp only [unpack]
  rw [if_neg h]
  split
  · next hzero =>
    split
    · trivial
    · simp only [InRange, hzero, Format.exponentBias]
      decide
  · simp only [InRange, Format.exponentBias]
    norm_num
    norm_num at hbits
    omega

lemma InRange.isFinite_pack {u : UnpackedFloat} (h : InRange u) :
    (Float.Model.pack u).isFinite = true := by
  have hexponent : unpackExponent (pack Format.binary64 u) ≠ -1#_ := by
    cases u with
    | infinity s => exact h.elim
    | notANumber => exact h.elim
    | zero s =>
        simp only [pack, packedZero, unpackExponent_packComponents]
        decide
    | finite s m e hm =>
        have he : e ≤ 971 := h
        simp only [pack]
        split
        · next hlarge =>
          norm_num [Format.exponentBias] at hlarge
          omega
        · next hsmall =>
          split
          · rw [unpackExponent_packComponents]
            intro hmax
            have hnat := congrArg BitVec.toNat hmax
            norm_num [Format.exponentBias] at hsmall hnat
            omega
          · rw [unpackExponent_packComponents]
            decide
  have hfinite := inRange_unpack hexponent
  revert hfinite
  show InRange (unpack Format.binary64 (pack Format.binary64 u)) →
    (unpack Format.binary64 (pack Format.binary64 u)).isFinite = true
  cases unpack Format.binary64 (pack Format.binary64 u) with
  | infinity s => exact False.elim
  | notANumber => exact False.elim
  | zero s => exact fun _ => rfl
  | finite s m e hm => exact fun _ => rfl

lemma InRange.of_isFinite {x : Float} (h : x.isFinite = true) : InRange x.toModel.unpack := by
  refine inRange_unpack fun hmax => ?_
  have hfinite : (unpack Format.binary64 x.toModel.toBits.toBitVec).isFinite = true := h
  simp only [unpack] at hfinite
  rw [if_pos hmax] at hfinite
  split at hfinite
  · exact Bool.false_ne_true hfinite
  · exact Bool.false_ne_true hfinite

/-- A number in range whose sign is changed is in range. -/
lemma isFinite_neg {x : Float} (h : x.isFinite = true) : (-x).isFinite = true := by
  have hx := InRange.of_isFinite h
  refine InRange.isFinite_pack ?_
  cases hu : x.toModel.unpack with
  | infinity s | notANumber => simp [hu, InRange] at hx
  | zero s => trivial
  | finite s m e hm =>
      rw [hu] at hx
      exact hx

/-- Mantissas have 53 bits, and exponents are those of binary64. -/
lemma unpack_bounds {x : Float} {s : Sign} {m : ℕ} {e : ℤ} {hm : 0 < m}
    (h : x.toModel.unpack = .finite s m e hm) : m < 2 ^ 53 ∧ -1074 ≤ e ∧ e ≤ 971 := by
  have hfinite : x.isFinite = true := by
    show x.toModel.unpack.isFinite = true
    rw [h]
    rfl
  have hrange := InRange.of_isFinite hfinite
  rw [h] at hrange
  refine and_assoc.mp ⟨?_, hrange⟩
  simp only [Float.Model.unpack, unpack] at h
  split at h
  · split at h <;> cases h
  · split at h
    · split at h
      · cases h
      · cases h
        refine ⟨(BitVec.isLt _).trans_le (by decide), ?_⟩
        simp only [Format.exponentBias]
        norm_num
        omega
    · cases h
      refine ⟨BitVec.isLt _, ?_⟩
      next hzero =>
      have hpos : 0 < (@unpackExponent Format.binary64 x.toModel.toBits.toBitVec).toNat :=
        Nat.pos_of_ne_zero fun h => hzero (BitVec.eq_of_toNat_eq h)
      simp only [Format.exponentBias]
      norm_num
      omega

/-! ### Sums -/

/-- Comparison with zero looks at the number taken apart. -/
lemma beq_zero (x : Float) : (x == 0) = (x.toModel.unpack.compare (.zero .positive) == some .eq) :=
  rfl

lemma lt_zero_iff (x : Float) :
    x < 0 ↔ (x.toModel.unpack.compare (.zero .positive) == some .lt) = true := by
  show decide ((x.toModel.unpack.compare (.zero .positive) == some .lt) = true) = true ↔ _
  exact decide_eq_true_iff

/-- The sum of two finite numbers of different sign is finite. -/
lemma isFinite_add {x y : Float} (hx : x.isFinite = true) (hy : y.isFinite = true)
    (hx0 : (x == 0) = false) (hy0 : (y == 0) = false) (hsign : decide (x < 0) ≠ decide (y < 0)) :
    (x + y).isFinite = true := by
  rw [ne_eq, decide_eq_decide, lt_zero_iff, lt_zero_iff] at hsign
  rw [beq_zero] at hx0 hy0
  change x.toModel.unpack.isFinite = true at hx
  change y.toModel.unpack.isFinite = true at hy
  refine InRange.isFinite_pack ?_
  have hbx := @unpack_bounds x
  have hby := @unpack_bounds y
  generalize x.toModel.unpack = u at hbx hx hx0 hsign ⊢
  generalize y.toModel.unpack = v at hby hy hy0 hsign ⊢
  cases u with
  | infinity s => cases hx
  | notANumber => cases hx
  | zero s => cases hx0
  | finite s m e hm =>
    cases v with
    | infinity s => cases hy
    | notANumber => cases hy
    | zero s => cases hy0
    | finite t n f hn =>
        obtain ⟨hm', hlow, hhigh⟩ := hbx rfl
        obtain ⟨hn', hlow', hhigh'⟩ := hby rfl
        refine inRange_add ?_ hm' hn' hlow hlow' hhigh hhigh'
        rintro rfl
        cases s <;> exact hsign Iff.rfl

end ChatBot.Binary64
