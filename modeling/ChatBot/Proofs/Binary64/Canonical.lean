import ChatBot.Proofs.Binary64.Remainder

/-!
Numbers without sign as mantissas and exponents.

* `IsCanonical`: a mantissa and an exponent as the parts of a finite number have them;
* `assemble`: the number of a mantissa and an exponent, taken apart. It is packed into its bits by
  `toNat_pack_assemble` and read off them by `parts_eq_iff`;
* `unpack_eq_assemble`: both ways of taking a number apart give the same;
* `roundWithAccuracy_of_value`, `normalize_of_value`: what has the value of a
  number is rounded to that number.
-/

namespace ChatBot.Binary64

open Float.Model (UnpackedFloat Format totalExponent)
open Float.Model.UnpackedFloat

variable {x : Float} {m n : ℕ} {e f : ℤ}

/-- A mantissa and an exponent as the parts of a finite number have them: the mantissa has all of
its 53 bits, or the exponent is the least one. -/
structure IsCanonical (m : ℕ) (e : ℤ) : Prop where
  lt : m < 2 ^ 53
  low : -1074 ≤ e
  high : e ≤ 971
  full : 2 ^ 52 ≤ m ∨ e = -1074

lemma IsCanonical.zero : IsCanonical 0 (-1074) := ⟨by norm_num, le_rfl, by norm_num, .inr rfl⟩

/-- The number without sign that has a mantissa and an exponent. -/
def assemble (m : ℕ) (e : ℤ) : UnpackedFloat :=
  if h : m = 0 then .zero .positive else .finite .positive m e (Nat.pos_of_ne_zero h)

lemma assemble_of_pos (hm : 0 < m) (e : ℤ) : assemble m e = .finite .positive m e hm :=
  dif_neg hm.ne'

lemma assemble_zero (e : ℤ) : assemble 0 e = .zero .positive := dif_pos rfl

/-! ### Bits -/

/-- A mantissa without the highest bit counts on from the bits of its exponent. -/
lemma toNat_packComponents (biased : BitVec 11) (fraction : BitVec 52) :
    (packComponents Format.binary64 .positive biased fraction).toNat =
      biased.toNat * 2 ^ 52 + fraction.toNat := by
  have hsign : (Sign.positive.toBitVec).toNat = 0 := rfl
  rw [packComponents, BitVec.toNat_append, BitVec.toNat_append, hsign, Nat.zero_shiftLeft,
    Nat.zero_or, ← Nat.shiftLeft_add_eq_or_of_lt fraction.isLt, Nat.shiftLeft_eq]

/-- The bits of a number without sign count up with its mantissa and its exponent. -/
lemma toNat_pack_assemble (h : IsCanonical m e) :
    (UnpackedFloat.pack Format.binary64 (assemble m e)).toNat = (e + 1074).toNat * 2 ^ 52 + m := by
  obtain ⟨hm, hlow, hhigh, hfull⟩ := h
  rcases Nat.eq_zero_or_pos m with rfl | hpos
  · obtain rfl : e = -1074 := by omega
    rw [assemble_zero]
    rfl
  · have hbias : (e + Format.binary64.exponentBias +
      Format.binary64.mantissaBitsWithoutImplicit).toNat =
        (e + 1075).toNat := by
      norm_num [Format.exponentBias]
      omega
    have hfinite : ¬2 ^ Format.binary64.exponentBits ≤ (e + 1075).toNat + 1 := by
      norm_num
      omega
    have hbits : Format.binary64.mantissaBits = 53 := rfl
    rw [assemble_of_pos hpos]
    simp only [UnpackedFloat.pack, hbias, hbits]
    rw [if_neg hfinite]
    rcases le_or_gt (2 ^ 52) m with hnormal | hsub
    · have hlog : m.log2 + 1 = 53 := by
        rw [Nat.succ_inj, Nat.log2_eq_iff hpos.ne']
        exact ⟨hnormal, hm⟩
      rw [if_pos hlog, toNat_packComponents, BitVec.toNat_ofNat, BitVec.toNat_ofNat]
      omega
    · have hlog : m.log2 + 1 ≠ 53 := by
        have := (Nat.log2_lt hpos.ne').mpr hsub
        omega
      rw [if_neg hlog, toNat_packComponents, BitVec.toNat_ofNat, BitVec.toNat_ofNat]
      omega

/-- The parts of a number without sign are read off its bits. -/
lemma parts_eq_iff : parts x = .finite false m e ↔
    IsCanonical m e ∧ x.toBits.toNat = (e + 1074).toNat * 2 ^ 52 + m := by
  have hbits : x.toBits.toNat < 2 ^ 64 := x.toBits.toNat_lt
  simp only [parts]
  constructor
  · intro h
    split at h
    · split at h <;> cases h
    · split at h
      · obtain ⟨hsign, rfl, rfl⟩ := Parts.finite.inj h
        have := of_decide_eq_false hsign
        exact ⟨⟨by omega, by omega, by omega, .inr rfl⟩, by omega⟩
      · obtain ⟨hsign, rfl, rfl⟩ := Parts.finite.inj h
        have := of_decide_eq_false hsign
        exact ⟨⟨by omega, by omega, by omega, .inl (by omega)⟩, by omega⟩
  · rintro ⟨⟨hm, hlow, hhigh, hfull⟩, heq⟩
    have hsign : decide (2 ^ 63 ≤ x.toBits.toNat) = false := decide_eq_false (by omega)
    rcases le_or_gt (2 ^ 52) m with hnormal | hsub
    · have hbiased : x.toBits.toNat / 2 ^ 52 % 2 ^ 11 = (e + 1075).toNat := by omega
      have hfraction : 2 ^ 52 + x.toBits.toNat % 2 ^ 52 = m := by omega
      rw [hbiased, hsign, hfraction, if_neg (by omega), if_neg (by omega), Parts.finite.injEq]
      exact ⟨rfl, rfl, by omega⟩
    · obtain rfl : e = -1074 := by omega
      have hbiased : x.toBits.toNat / 2 ^ 52 % 2 ^ 11 = 0 := by omega
      have hfraction : x.toBits.toNat % 2 ^ 52 = m := by omega
      rw [hbiased, hsign, hfraction, if_neg (by omega), if_pos rfl]

/-! ### Packing -/

/-- The sign that is read off the bits. -/
lemma toNat_unpackSign (x : Float) :
    (@unpackSign Format.binary64 x.toModel.toBits.toBitVec).toNat = x.toBits.toNat / 2 ^ 63 := by
  have hbits : x.toBits.toNat < 2 ^ 64 := x.toBits.toNat_lt
  have hsign : (@unpackSign Format.binary64 x.toModel.toBits.toBitVec).toNat =
      x.toBits.toNat / 2 ^ 63 % 2 ^ 1 := by
    simp [unpackSign, Nat.shiftRight_eq_div_pow]
    rfl
  omega

/-- A number without sign is unpacked into its parts. -/
lemma unpack_eq_assemble (h : parts x = .finite false m e) : x.toModel.unpack = assemble m e := by
  obtain ⟨⟨hm, hlow, hhigh, hfull⟩, hbits⟩ := parts_eq_iff.mp h
  have hexponent := toNat_unpackExponent x
  have hmantissa := toNat_unpackMantissa x
  have hpositive : @unpackSign Format.binary64 x.toModel.toBits.toBitVec = 0#1 :=
    BitVec.eq_of_toNat_eq ((toNat_unpackSign x).trans (by simp only [BitVec.toNat_ofNat]; omega))
  have hsign : Sign.ofBitVec (@unpackSign Format.binary64 x.toModel.toBits.toBitVec) =
      .positive := by
    rw [hpositive]
    rfl
  have hfinite : @unpackExponent Format.binary64 x.toModel.toBits.toBitVec ≠ -1#_ := by
    intro hmax
    rw [hmax] at hexponent
    have hlast : BitVec.toNat (-BitVec.ofNat Format.binary64.exponentBits 1) = 2047 := rfl
    omega
  simp only [Float.Model.unpack, unpack]
  rw [if_neg hfinite, hsign]
  rcases le_or_gt (2 ^ 52) m with hnormal | hsub
  · have hnonzero : @unpackExponent Format.binary64 x.toModel.toBits.toBitVec ≠ 0#_ := by
      intro hzero
      rw [hzero] at hexponent
      simp only [BitVec.toNat_ofNat, Nat.zero_mod] at hexponent
      omega
    have happend :
        (1#1 ++ @unpackMantissa Format.binary64 x.toModel.toBits.toBitVec).toNat = m := by
      rw [BitVec.toNat_append, ← Nat.shiftLeft_add_eq_or_of_lt (BitVec.isLt _), hmantissa,
        Nat.shiftLeft_eq]
      simp only [BitVec.toNat_ofNat]
      omega
    rw [if_neg hnonzero, assemble_of_pos (by omega), finite.injEq]
    refine ⟨rfl, happend, ?_⟩
    rw [hexponent]
    norm_num [Format.exponentBias]
    omega
  · obtain rfl : e = -1074 := by omega
    have hzero : @unpackExponent Format.binary64 x.toModel.toBits.toBitVec = 0#_ :=
      BitVec.eq_of_toNat_eq (hexponent.trans (by simp only [BitVec.toNat_ofNat]; omega))
    have hfraction : (@unpackMantissa Format.binary64 x.toModel.toBits.toBitVec).toNat = m := by
      omega
    rw [if_pos hzero]
    rcases Nat.eq_zero_or_pos m with rfl | hpos
    · rw [dif_pos (BitVec.eq_of_toNat_eq hfraction), assemble_zero]
    · rw [dif_neg (fun hm0 => hpos.ne' (by rw [← hfraction, hm0]; rfl)), assemble_of_pos hpos,
        finite.injEq]
      refine ⟨rfl, hfraction, ?_⟩
      rw [hexponent]
      norm_num [Format.exponentBias]
      omega

/-- A number without sign is found again after it was packed. -/
lemma parts_pack_assemble (h : IsCanonical m e) :
    parts (.ofModel (.pack (assemble m e))) = .finite false m e :=
  parts_eq_iff.mpr ⟨h, toNat_pack_assemble h⟩

/-! ### Rounding -/

/-- The exponent is the one that a number of this size should have. -/
lemma IsCanonical.target (h : IsCanonical m e) : max ((m.log2 : ℤ) + e - 52) (-1074) = e := by
  obtain ⟨hm, hlow, -, hfull⟩ := h
  rcases Nat.eq_zero_or_pos m with rfl | hpos
  · rw [Nat.log2_zero]
    omega
  · have hlog : m.log2 < 53 := (Nat.log2_lt hpos.ne').mpr hm
    rcases hfull with hnormal | rfl
    · have : 52 ≤ m.log2 := (Nat.le_log2 hpos.ne').mpr hnormal
      omega
    · omega

lemma log2_mul_two_pow (hm : 0 < m) (k : ℕ) : (m * 2 ^ k).log2 = m.log2 + k := by
  induction k with
  | zero => rw [pow_zero, mul_one, add_zero]
  | succ k ih =>
      have hne : m * 2 ^ k ≠ 0 := by positivity
      rw [pow_succ, ← mul_assoc, mul_comm _ 2, Nat.log2_two_mul hne, ih, add_assoc]

lemma log2_mul_le (m n : ℕ) : (m * n).log2 ≤ m.log2 + n.log2 + 1 := by
  rcases Nat.eq_zero_or_pos (m * n) with hzero | hpos
  · rw [hzero, Nat.log2_zero]
    exact Nat.zero_le _
  · refine Nat.le_of_lt_succ ((Nat.log2_lt hpos.ne').mpr ?_)
    have hprod : m * n < 2 ^ (m.log2 + 1) * 2 ^ (n.log2 + 1) :=
      Nat.mul_lt_mul'' Nat.lt_log2_self Nat.lt_log2_self
    rwa [← pow_add, show m.log2 + 1 + (n.log2 + 1) = (m.log2 + n.log2 + 1).succ by omega] at hprod

/-- Digits that are all zero are shifted out without a loss. -/
lemma roundWithAccuracy_exact (h : IsCanonical m e) (k : ℕ) :
    roundWithAccuracy Format.binary64 .positive (m * 2 ^ k) (e - k) .exact = assemble m e := by
  have htarget : Format.binary64.targetExponent (totalExponent (m * 2 ^ k) (e - k)) = e := by
    rw [targetExponent_eq]
    rcases Nat.eq_zero_or_pos m with rfl | hpos
    · have := h.full
      have := h.target
      rw [zero_mul, Nat.log2_zero]
      omega
    · rw [log2_mul_two_pow hpos]
      have := h.target
      omega
  have htarget' : Format.binary64.targetExponent (totalExponent m e) = e := by
    rw [targetExponent_eq, h.target]
  obtain ⟨hmantissa, hbits⟩ := shiftRight_spec (m * 2 ^ k) k
  obtain ⟨hround, hsticky⟩ := hbits (Nat.mul_mod_left _ _)
  rw [Nat.mul_div_cancel _ (Nat.two_pow_pos k)] at hmantissa
  have hshifted : (ExtendedMantissa.mk (m * 2 ^ k) false false) >>> k = ⟨m, false, false⟩ := by
    generalize (ExtendedMantissa.mk (m * 2 ^ k) false false) >>> k = em at hmantissa hround hsticky
    obtain ⟨mantissa, round, sticky⟩ := em
    simp only at hmantissa hround hsticky
    rw [hmantissa, hround, hsticky]
  have hfirst : shiftToTargetExponent Format.binary64 (m * 2 ^ k) (e - k) .exact =
      (⟨m, false, false⟩, e) := by
    have hamount : (e - (e - (k : ℤ))).toNat = k := by omega
    simp only [shiftToTargetExponent, htarget, shiftToExponent, hamount]
    exact Prod.ext hshifted (sub_add_cancel e (k : ℤ))
  have hsecond : shiftToTargetExponent Format.binary64 m e .exact = (⟨m, false, false⟩, e) := by
    simp only [shiftToTargetExponent, htarget', shiftToExponent, sub_self, Int.toNat_zero]
    exact Prod.ext rfl (add_zero e)
  have hrounded : (ExtendedMantissa.mk m false false).roundedMantissa = m := rfl
  simp only [roundWithAccuracy, hfirst, hrounded, hsecond]
  rfl

/-- Of two mantissas of one value, that with the smaller exponent is a multiple of the other. -/
lemma eq_mul_of_value (hle : e ≤ f) (h : (m : ℚ) * 2 ^ e = n * 2 ^ f) :
    m = n * 2 ^ (f - e).toNat := by
  have hsplit : (2 : ℚ) ^ f = 2 ^ (f - e).toNat * 2 ^ e := by
    rw [← zpow_natCast, ← zpow_add₀ two_ne_zero]
    congr 1
    omega
  rw [hsplit, ← mul_assoc] at h
  exact_mod_cast mul_right_cancel₀ (zpow_ne_zero e two_ne_zero) h

/-- A mantissa that is moved to a smaller exponent has the same value. -/
lemma shiftLeft_value {t : ℤ} (ht : t ≤ e) :
    ((m <<< (e - t).toNat : ℕ) : ℚ) * 2 ^ t = m * 2 ^ e := by
  rw [Nat.shiftLeft_eq, Nat.cast_mul, Nat.cast_pow, Nat.cast_two, mul_assoc, ← zpow_natCast,
    ← zpow_add₀ two_ne_zero]
  congr 2
  omega

/-- Mantissas of one value are zero together. -/
lemma pos_of_value (hm : 0 < m) (h : (m : ℚ) * 2 ^ e = n * 2 ^ f) : 0 < n := by
  rcases Nat.eq_zero_or_pos n with rfl | hn
  · have hpos : (0 : ℚ) < m * 2 ^ e := by positivity
    rw [h, Nat.cast_zero, zero_mul] at hpos
    exact absurd hpos (lt_irrefl 0)
  · exact hn

/-- The highest digit stands at the same place in all mantissas of one value. -/
lemma log2_add_of_value (hm : 0 < m) (hn : 0 < n) (h : (m : ℚ) * 2 ^ e = n * 2 ^ f) :
    (m.log2 : ℤ) + e = n.log2 + f := by
  wlog hle : e ≤ f generalizing m n e f
  · exact (this hn hm h.symm (le_of_not_ge hle)).symm
  · rw [eq_mul_of_value hle h, log2_mul_two_pow hn]
    omega

/-- What has the value of a number is rounded to that number, if its mantissa is long enough. -/
lemma roundWithAccuracy_of_value (hc : IsCanonical n f) (hle : e ≤ f)
    (h : (m : ℚ) * 2 ^ e = n * 2 ^ f) :
    roundWithAccuracy Format.binary64 .positive m e .exact = assemble n f := by
  have hround := roundWithAccuracy_exact hc (f - e).toNat
  rwa [← eq_mul_of_value hle h, show f - ((f - e).toNat : ℤ) = e by omega] at hround

/-- What has the value of a number is rounded to that number. -/
lemma normalize_of_value (hc : IsCanonical n f) (h : (m : ℚ) * 2 ^ e = n * 2 ^ f) :
    UnpackedFloat.normalize Format.binary64 m e .positive = assemble n f := by
  rcases Nat.eq_zero_or_pos m with rfl | hm
  · obtain rfl : n = 0 := by
      by_contra hn
      exact lt_irrefl 0 (pos_of_value (Nat.pos_of_ne_zero hn) h.symm)
    rw [assemble_zero]
    rfl
  · have htarget : max ((m.log2 : ℤ) + e - 52) (-1074) = f := by
      rw [log2_add_of_value hm (pos_of_value hm h) h, hc.target]
    rw [UnpackedFloat.normalize, Int.compare_eq_gt.mpr (by exact_mod_cast hm)]
    simp only [Int.toNat_natCast, UnpackedFloat.round, targetExponent_eq, htarget, decreaseExponent]
    refine roundWithAccuracy_of_value hc (by omega) ?_
    have hexponent : e - ((e - f).toNat : ℤ) = min e f := by omega
    have hamount : (e - f).toNat = (e - min e f).toNat := by omega
    rw [hexponent, hamount, shiftLeft_value (min_le_left e f), h]

end ChatBot.Binary64
