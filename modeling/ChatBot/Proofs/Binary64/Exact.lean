import ChatBot.Proofs.Binary64.Canonical

/-!
Arithmetic that needs no rounding.

* `Exactly x q`: the number `x` is the value `q`, which is not negative;
* `Fits`: a value that is one of a number. By `fits_of_lt` that is so for whole numbers of
  53 bits times a power of two;
* `Exactly.add`, `Exactly.mul`, `Exactly.div`: sums, products and quotients that fit are not
  rounded;
* `Exactly.le_iff`, `Exactly.lt_iff`: numbers are compared by their values;
* `exactly_nearest`, `exactly_ofInt`: whole numbers of 53 bits are themselves;
* `Exactly.trunc`, `Exactly.toInt64`: what is rounded toward zero is the whole part.
-/

namespace ChatBot.Binary64

open Float.Model (UnpackedFloat Format totalExponent)
open Float.Model.UnpackedFloat

variable {x y : Float} {m n : ℕ} {e f : ℤ} {p q : ℚ}

/-! ### Values -/

/-- The number is the value, which is not negative. -/
def Exactly (x : Float) (q : ℚ) : Prop := ∃ m e, parts x = .finite false m e ∧ q = m * 2 ^ e

/-- The value is that of a number. -/
def Fits (q : ℚ) : Prop := ∃ m e, IsCanonical m e ∧ q = m * 2 ^ e

lemma exactly_pack {u : UnpackedFloat} (hc : IsCanonical m e) (hu : u = assemble m e)
    (hq : q = m * 2 ^ e) : Exactly (.ofModel (.pack u)) q :=
  ⟨m, e, hu ▸ parts_pack_assemble hc, hq⟩

/-- A sum that is a number is not rounded. -/
lemma Exactly.add (hx : Exactly x p) (hy : Exactly y q) (hfits : Fits (p + q)) :
    Exactly (x + y) (p + q) := by
  obtain ⟨m, e, hm, rfl⟩ := hx
  obtain ⟨n, f, hn, rfl⟩ := hy
  obtain ⟨k, g, hc, hsum⟩ := hfits
  have hcm := (parts_eq_iff.mp hm).1
  have hcn := (parts_eq_iff.mp hn).1
  show Exactly (.ofModel
    (.pack (UnpackedFloat.add Format.binary64 x.toModel.unpack y.toModel.unpack))) _
  rw [unpack_eq_assemble hm, unpack_eq_assemble hn]
  rcases Nat.eq_zero_or_pos m with rfl | hm0
  · refine exactly_pack hcn ?_ (by rw [Nat.cast_zero, zero_mul, zero_add])
    rw [assemble_zero]
    unfold assemble
    split <;> rfl
  · rcases Nat.eq_zero_or_pos n with rfl | hn0
    · refine exactly_pack hcm ?_ (by rw [Nat.cast_zero, zero_mul, add_zero])
      rw [assemble_zero, assemble_of_pos hm0]
      rfl
    · refine exactly_pack hc ?_ hsum
      rw [assemble_of_pos hm0, assemble_of_pos hn0, UnpackedFloat.add]
      simp only [decreaseExponent, Sign.apply]
      rw [← Nat.cast_add]
      refine normalize_of_value hc ?_
      rw [← hsum, Nat.cast_add, add_mul, shiftLeft_value (min_le_left e f),
        shiftLeft_value (min_le_right e f)]

/-- A product that is a number is not rounded. -/
lemma Exactly.mul (hx : Exactly x p) (hy : Exactly y q) (hfits : Fits (p * q)) :
    Exactly (x * y) (p * q) := by
  obtain ⟨m, e, hm, rfl⟩ := hx
  obtain ⟨n, f, hn, rfl⟩ := hy
  obtain ⟨k, g, hc, hprod⟩ := hfits
  have hcm := (parts_eq_iff.mp hm).1
  have hcn := (parts_eq_iff.mp hn).1
  show Exactly (.ofModel
    (.pack (UnpackedFloat.mul Format.binary64 x.toModel.unpack y.toModel.unpack))) _
  rw [unpack_eq_assemble hm, unpack_eq_assemble hn]
  rcases Nat.eq_zero_or_pos m with rfl | hm0
  · refine exactly_pack .zero ?_ (by simp)
    rw [assemble_zero, assemble_zero]
    unfold assemble
    split <;> rfl
  · rcases Nat.eq_zero_or_pos n with rfl | hn0
    · refine exactly_pack .zero ?_ (by simp)
      rw [assemble_zero, assemble_zero, assemble_of_pos hm0]
      rfl
    · refine exactly_pack hc ?_ hprod
      have hvalue : ((m * n : ℕ) : ℚ) * 2 ^ (e + f) = k * 2 ^ g := by
        rw [← hprod, zpow_add₀ two_ne_zero, Nat.cast_mul]
        ring
      rw [assemble_of_pos hm0, assemble_of_pos hn0]
      refine roundWithAccuracy_of_value hc ?_ hvalue
      -- the product has more digits than a mantissa unless both exponents are the least one
      have hmn : 0 < m * n := Nat.mul_pos hm0 hn0
      have hlog := log2_add_of_value hmn (pos_of_value hmn hvalue) hvalue
      have htarget := hc.target
      rcases le_or_gt (2 ^ 52) (m * n) with hlong | hshort
      · have : 52 ≤ (m * n).log2 := (Nat.le_log2 hmn.ne').mpr hlong
        omega
      · have hme : e = -1074 := hcm.full.resolve_left fun hfull =>
          hshort.not_ge (hfull.trans (Nat.le_mul_of_pos_right m hn0))
        have hnf : f = -1074 := hcn.full.resolve_left fun hfull =>
          hshort.not_ge (hfull.trans (Nat.le_mul_of_pos_left n hm0))
        have := hc.low
        omega

/-- A quotient that is a number is not rounded. -/
lemma Exactly.div (hx : Exactly x p) (hy : Exactly y q) (hq : q ≠ 0) (hfits : Fits (p / q)) :
    Exactly (x / y) (p / q) := by
  obtain ⟨m, e, hm, rfl⟩ := hx
  obtain ⟨n, f, hn, rfl⟩ := hy
  obtain ⟨k, g, hc, hquot⟩ := hfits
  have hn0 : 0 < n := Nat.pos_of_ne_zero (by rintro rfl; simp at hq)
  show Exactly (.ofModel
    (.pack (UnpackedFloat.div Format.binary64 x.toModel.unpack y.toModel.unpack))) _
  rw [unpack_eq_assemble hm, unpack_eq_assemble hn, assemble_of_pos hn0]
  rcases Nat.eq_zero_or_pos m with rfl | hm0
  · exact exactly_pack .zero rfl (by simp)
  · refine exactly_pack hc ?_ hquot
    have hvalue : (m : ℚ) * 2 ^ (e - f) = (k * n : ℕ) * 2 ^ g := by
      rw [div_eq_iff hq] at hquot
      rw [zpow_sub₀ two_ne_zero, ← mul_div_assoc, hquot, Nat.cast_mul]
      field_simp
    have hkn := pos_of_value hm0 hvalue
    have hlog := log2_add_of_value hm0 hkn hvalue
    have hlog' := log2_mul_le k n
    have htarget := hc.target
    -- the quotient is computed with the exponent `t`, which is no greater than that of the result
    rw [assemble_of_pos hm0]
    simp only [UnpackedFloat.div, divCore, Format.targetExponent, totalExponent]
    have hbits : (Format.binary64.mantissaBits : ℤ) = 53 := rfl
    have hmin : Format.binary64.minExponent = -1074 := rfl
    rw [hbits, hmin]
    generalize ht : min (e - f) (max (m.log2 + 1 + e - (n.log2 + 1 + f) - 53) (-1074) : ℤ) = t
    have htg : t ≤ g := by omega
    have hshift := (shiftLeft_value (m := m) (ht ▸ min_le_left _ _ : t ≤ e - f)).trans hvalue
    rw [eq_mul_of_value htg hshift, mul_right_comm, Nat.mul_div_cancel _ hn0, Nat.mul_mod_left]
    refine roundWithAccuracy_of_value hc htg ?_
    rw [← Nat.shiftLeft_eq, shiftLeft_value htg]

/-- A greater exponent makes a greater value. -/
lemma IsCanonical.value_lt (h : IsCanonical m e) (h' : IsCanonical n f) (hlt : e < f) :
    (m : ℚ) * 2 ^ e < n * 2 ^ f := by
  have hm : (m : ℚ) < 2 ^ (53 : ℤ) := by exact_mod_cast h.lt
  have hn : (2 : ℚ) ^ (52 : ℤ) ≤ n := by
    have := h'.full.resolve_right (by have := h.low; omega)
    exact_mod_cast this
  calc (m : ℚ) * 2 ^ e < 2 ^ (53 : ℤ) * 2 ^ e := by gcongr
    _ = 2 ^ (52 : ℤ) * 2 ^ (e + 1) := by
        rw [← zpow_add₀ two_ne_zero, ← zpow_add₀ two_ne_zero]
        congr 1
        omega
    _ ≤ n * 2 ^ f := by
        gcongr
        · norm_num
        · omega

lemma compare_assemble (hm : IsCanonical m e) (hn : IsCanonical n f) :
    UnpackedFloat.compare (assemble m e) (assemble n f) =
      some (Ord.compare ((m : ℚ) * 2 ^ e) (n * 2 ^ f)) := by
  rcases Nat.eq_zero_or_pos m with rfl | hm0
  · rw [assemble_zero, Nat.cast_zero, zero_mul]
    rcases Nat.eq_zero_or_pos n with rfl | hn0
    · rw [assemble_zero, Nat.cast_zero, zero_mul, compare_eq_iff_eq.mpr rfl]
      rfl
    · rw [assemble_of_pos hn0, compare_lt_iff_lt.mpr (by positivity)]
      rfl
  · rcases Nat.eq_zero_or_pos n with rfl | hn0
    · rw [assemble_of_pos hm0, assemble_zero, Nat.cast_zero, zero_mul,
        compare_gt_iff_gt.mpr (by positivity)]
      rfl
    · rw [assemble_of_pos hm0, assemble_of_pos hn0, UnpackedFloat.compare]
      congr 1
      rcases lt_trichotomy e f with hlt | rfl | hlt
      · rw [compare_lt_iff_lt.mpr (hm.value_lt hn hlt), Int.compare_eq_lt.mpr hlt]
        rfl
      · have hpos : (0 : ℚ) < 2 ^ e := by positivity
        rw [compare_eq_iff_eq.mpr rfl, ← cmp_eq_compare ((m : ℚ) * 2 ^ e), cmp_mul_pos_right hpos,
          Nat.strictMono_cast.cmp_map_eq, cmp_eq_compare]
        rfl
      · rw [compare_gt_iff_gt.mpr (hn.value_lt hm hlt), Int.compare_eq_gt.mpr hlt]
        rfl

/-- Numbers are compared by their values. -/
lemma Exactly.compare (hx : Exactly x p) (hy : Exactly y q) :
    UnpackedFloat.compare x.toModel.unpack y.toModel.unpack = some (Ord.compare p q) := by
  obtain ⟨m, e, hm, rfl⟩ := hx
  obtain ⟨n, f, hn, rfl⟩ := hy
  rw [unpack_eq_assemble hm, unpack_eq_assemble hn]
  exact compare_assemble (parts_eq_iff.mp hm).1 (parts_eq_iff.mp hn).1

lemma Exactly.le_iff (hx : Exactly x p) (hy : Exactly y q) : x ≤ y ↔ p ≤ q := by
  rw [← compare_le_iff_le]
  show decide (UnpackedFloat.le _ _ = true) = true ↔ _
  rw [decide_eq_true_iff, UnpackedFloat.le, hx.compare hy, Option.any_some, Ordering.isLE_iff_ne_gt]

lemma Exactly.lt_iff (hx : Exactly x p) (hy : Exactly y q) : x < y ↔ p < q := by
  rw [← compare_lt_iff_lt]
  show decide (UnpackedFloat.lt _ _ = true) = true ↔ _
  rw [decide_eq_true_iff, UnpackedFloat.lt, hx.compare hy, beq_iff_eq, Option.some_inj]

/-! ### Whole numbers -/

/-- Numbers are found again in their bits. -/
lemma parts_ofMagnitude (h : IsCanonical m e) :
    parts (ofMagnitude false ((e + 1074).toNat * 2 ^ 52 + m)) = .finite false m e := by
  have hbits : ((e + 1074).toNat * 2 ^ 52 + m).toUInt64 =
      (Float.ofModel (.pack (assemble m e))).toBits := by
    have hlt : (e + 1074).toNat * 2 ^ 52 + m < UInt64.size := by
      obtain ⟨hm, hlow, hhigh, -⟩ := h
      norm_num [UInt64.size]
      omega
    exact UInt64.toNat_inj.mp ((UInt64.toNat_ofNat_of_lt' hlt).trans (toNat_pack_assemble h).symm)
  rw [ofMagnitude, if_neg Bool.false_ne_true, hbits, Float.ofBits_toBits]
  exact parts_pack_assemble h

lemma fits_of_lt (hm : m < 2 ^ 53) (hlow : -1074 ≤ e) (hhigh : e ≤ 971) : Fits (m * 2 ^ e) := by
  rcases Nat.eq_zero_or_pos m with rfl | hpos
  · exact ⟨0, -1074, .zero, by simp⟩
  · have hlog : m.log2 < 53 := (Nat.log2_lt hpos.ne').mpr hm
    -- the mantissa is moved to the left as far as it and the exponent go
    obtain ⟨k, hk⟩ : ∃ k : ℕ, (k : ℤ) = min (52 - (m.log2 : ℤ)) (e + 1074) :=
      ⟨(min (52 - (m.log2 : ℤ)) (e + 1074)).toNat, by omega⟩
    have hmoved := log2_mul_two_pow hpos k
    have hpos' : 0 < m * 2 ^ k := by positivity
    refine ⟨m * 2 ^ k, e - k, ⟨(Nat.log2_lt hpos'.ne').mp (by omega), by omega, by omega, ?_⟩, ?_⟩
    · rcases le_or_gt (52 - (m.log2 : ℤ)) (e + 1074) with hfull | hleast
      · exact .inl ((Nat.le_log2 hpos'.ne').mp (by omega))
      · exact .inr (by omega)
    · rw [Nat.cast_mul, Nat.cast_pow, Nat.cast_two, mul_assoc, ← zpow_natCast,
        ← zpow_add₀ two_ne_zero]
      congr 2
      omega

lemma roundHalfEven_one (n : ℕ) : roundHalfEven n 1 = n := by
  simp [roundHalfEven, Nat.mod_one]

lemma scaleBy_neg (n den k : ℕ) : scaleBy n den (-k) = (n * 2 ^ k, den) := by
  rcases Nat.eq_zero_or_pos k with rfl | hk
  · simp [scaleBy]
  · rw [scaleBy, if_neg (by omega), neg_neg, Int.toNat_natCast]

/-- The unit of a whole number is the place of its last bit, if the number is to have 53 of them. -/
lemma unitExponent_one (hpos : 0 < n) (h : n < 2 ^ 53) : unitExponent n 1 = -(52 - n.log2 : ℕ) := by
  have hlog : n.log2 < 53 := (Nat.log2_lt hpos.ne').mpr h
  have hone : Nat.log2 1 = 0 := by decide
  have hstart : max ((n.log2 : ℤ) - (0 : ℕ) - 53) (-1074) = -(53 - n.log2 : ℕ) := by omega
  have hbound : ¬n * 2 ^ (53 - n.log2) < 1 * 2 ^ 53 := by
    have hfull := log2_mul_two_pow hpos (53 - n.log2)
    rw [not_lt, one_mul, ← Nat.le_log2 (by positivity), hfull]
    omega
  simp only [unitExponent, hone, hstart, scaleBy_neg]
  exact (if_neg hbound).trans (by omega)

/-- Whole numbers of 53 bits are not rounded. -/
lemma exactly_nearest (h : n < 2 ^ 53) : Exactly (nearest false n 1) n := by
  rcases Nat.eq_zero_or_pos n with rfl | hpos
  · have hzero := parts_ofMagnitude .zero
    norm_num at hzero
    refine ⟨0, -1074, ?_, by simp⟩
    rw [nearest, if_pos rfl, hzero]
  · have hlog : n.log2 < 53 := (Nat.log2_lt hpos.ne').mpr h
    obtain ⟨k, hk⟩ : ∃ k, 52 - n.log2 = k := ⟨_, rfl⟩
    have hmoved := log2_mul_two_pow hpos k
    have hpos' : 0 < n * 2 ^ k := by positivity
    have hc : IsCanonical (n * 2 ^ k) (-k) :=
      ⟨(Nat.log2_lt hpos'.ne').mp (by omega), by omega, by omega,
        .inl ((Nat.le_log2 hpos'.ne').mp (by omega))⟩
    have hfinite : (-(k : ℤ) + 1074).toNat * 2 ^ 52 + n * 2 ^ k ≤ infiniteBits := by
      have := hc.lt
      rw [infiniteBits_eq]
      norm_num at this ⊢
      omega
    refine ⟨n * 2 ^ k, -k, ?_, ?_⟩
    · rw [nearest, if_neg hpos.ne', unitExponent_one hpos h, hk]
      simp only [scaleBy_neg, roundHalfEven_one]
      rw [min_eq_left hfinite]
      exact parts_ofMagnitude hc
    · rw [Nat.cast_mul, Nat.cast_pow, Nat.cast_two, mul_assoc, ← zpow_natCast,
        ← zpow_add₀ two_ne_zero, add_neg_cancel, zpow_zero, mul_one]

lemma exactly_ofInt (h : n < 2 ^ 53) : Exactly (ofInt n) n := by
  have hsign : decide ((n : ℤ) < 0) = false := decide_eq_false (by omega)
  rw [ofInt, hsign, Int.natAbs_natCast]
  exact exactly_nearest h

/-- The whole part of a value is found by a division if the exponent is negative. -/
lemma floor_value (m : ℕ) (e : ℤ) :
    (⌊(m : ℚ) * 2 ^ e⌋₊ = if 0 ≤ e then m * 2 ^ e.toNat else m / 2 ^ (-e).toNat) := by
  split
  · next he =>
    have hpow : (2 : ℚ) ^ e = 2 ^ e.toNat := by
      rw [← zpow_natCast, Int.toNat_of_nonneg he]
    rw [hpow]
    exact_mod_cast Nat.floor_natCast (R := ℚ) (m * 2 ^ e.toNat)
  · next he =>
    have hpow : (2 : ℚ) ^ e = ((2 ^ (-e).toNat : ℕ) : ℚ)⁻¹ := by
      rw [Nat.cast_pow, Nat.cast_two, ← zpow_natCast, ← zpow_neg, Int.toNat_of_nonneg (by omega),
        neg_neg]
    rw [hpow, ← div_eq_mul_inv, Nat.floor_div_eq_div]

/-- Rounding toward zero gives the whole part. -/
lemma Exactly.trunc (hx : Exactly x q) : Exactly (trunc x) ⌊q⌋₊ := by
  obtain ⟨m, e, hm, rfl⟩ := hx
  rw [floor_value]
  simp only [Binary64.trunc, hm]
  split
  · next he =>
    refine ⟨m, e, hm, ?_⟩
    rw [Nat.cast_mul, Nat.cast_pow, Nat.cast_two, ← zpow_natCast, Int.toNat_of_nonneg he]
  · exact exactly_nearest ((Nat.div_le_self _ _).trans_lt (parts_bounds hm).1)

/-- A whole part of at most 64 bits is kept as an integer. -/
lemma Exactly.toInt64 (hx : Exactly x q) (hq : (⌊q⌋₊ : ℤ) ≤ int64Max) : toInt64 x = ⌊q⌋₊ := by
  obtain ⟨m, e, hm, rfl⟩ := hx
  have hwhole : truncToInt x = ⌊(m : ℚ) * 2 ^ e⌋₊ := by
    rw [floor_value]
    simp only [truncToInt, hm]
    rw [if_neg Bool.false_ne_true]
  have hlow : int64Min ≤ 0 := by decide
  simp only [Binary64.toInt64, hm, hwhole]
  omega

end ChatBot.Binary64
