import ChatBot.Proofs.Binary64.Exact
import ChatBot.RuneScape.Experience

/-!
The experience that levels need, in whole numbers.

* `gain`: four times the experience from a level to the next one, a whole part of a real number;
* `quarters`: four times the experience that a level needs;
* `gain_growth`: steps grow by a tenth at least, so that sums of them stay small (`quarters_le`);
* `exactly_step`, `exactly_stepsBelow`: the steps of the levels and their sums
  are computed without an error;
* `experienceFor_eq`: a level needs the quarter of the sum, rounded down;
* `le_levelAt_iff`: a level is reached by the quarter of the sum, not rounded.
-/

namespace ChatBot.RuneScape

open Binary64 (Exactly Fits)

/-- Four times the experience from a level to the next, in whole points. -/
noncomputable def gain (level : ℕ) : ℕ := ⌊(level + 300 * 2 ^ ((level : ℝ) / 7) : ℝ)⌋₊

/-- Four times the experience that a level needs. -/
noncomputable def quarters (level : ℕ) : ℕ := ∑ k ∈ Finset.Ico 1 level, gain k

/-! ### Steps -/

/-- Seventh powers tell the whole part. -/
lemma gain_eq {level n : ℕ} (hle : level ≤ n) (hlow : (n - level) ^ 7 ≤ 300 ^ 7 * 2 ^ level)
    (hhigh : 300 ^ 7 * 2 ^ level < (n + 1 - level) ^ 7) : gain level = n := by
  have hpow : (300 * 2 ^ ((level : ℝ) / 7) : ℝ) ^ 7 = (300 ^ 7 * 2 ^ level : ℕ) := by
    rw [mul_pow, ← Real.rpow_natCast (2 ^ ((level : ℝ) / 7)) 7, ← Real.rpow_mul zero_le_two]
    norm_num
  have hpos : (0 : ℝ) ≤ 300 * 2 ^ ((level : ℝ) / 7) := by positivity
  have hbelow : ((n - level : ℕ) : ℝ) ≤ 300 * 2 ^ ((level : ℝ) / 7) := by
    refine le_of_pow_le_pow_left₀ (n := 7) (by norm_num) hpos ?_
    rw [hpow]
    exact_mod_cast hlow
  have habove : 300 * 2 ^ ((level : ℝ) / 7) < ((n + 1 - level : ℕ) : ℝ) := by
    refine lt_of_pow_lt_pow_left₀ 7 (Nat.cast_nonneg _) ?_
    rw [hpow]
    exact_mod_cast hhigh
  rw [Nat.cast_sub hle] at hbelow
  rw [Nat.cast_sub (hle.trans n.le_succ), Nat.cast_succ] at habove
  rw [gain, Nat.floor_eq_iff (by positivity)]
  constructor <;> linarith

/-- The steps of the levels, computed and compared with the seventh powers that enclose them. -/
lemma step_eq : ∀ level ∈ List.range' 1 126,
    let n := (Binary64.truncToInt (step level)).toNat
    step level = Binary64.ofInt n ∧ level ≤ n ∧ (n - level) ^ 7 ≤ 300 ^ 7 * 2 ^ level ∧
      300 ^ 7 * 2 ^ level < (n + 1 - level) ^ 7 := by
  decide +kernel

lemma level_le_two_rpow (level : ℕ) : (level : ℝ) ≤ 12 * 2 ^ ((level : ℝ) / 7) := by
  have hexp := Real.add_one_le_exp (Real.log 2 * (level / 7))
  have hlog := mul_le_mul_of_nonneg_right Real.log_two_gt_d9.le (Nat.cast_nonneg (α := ℝ) level)
  rw [Real.rpow_def_of_pos two_pos]
  linarith

/-- The steps grow by a tenth at least, as the seventh power of 1.104 is below two. -/
lemma gain_growth (level : ℕ) : 11 * gain level ≤ 10 * gain (level + 1) := by
  have hroot : (1.104 : ℝ) ≤ 2 ^ ((1 : ℝ) / 7) := by
    refine le_of_pow_le_pow_left₀ (n := 7) (by norm_num) (by positivity) ?_
    rw [← Real.rpow_natCast (2 ^ ((1 : ℝ) / 7)) 7, ← Real.rpow_mul zero_le_two]
    norm_num
  have hnext : (2 : ℝ) ^ (((level + 1 : ℕ) : ℝ) / 7) =
      2 ^ ((level : ℝ) / 7) * 2 ^ ((1 : ℝ) / 7) := by
    rw [← Real.rpow_add two_pos, Nat.cast_succ, add_div]
  have hbelow : (gain level : ℝ) ≤ level + 300 * 2 ^ ((level : ℝ) / 7) :=
    Nat.floor_le (by positivity)
  have habove := Nat.lt_floor_add_one ((level + 1 : ℕ) + 300 * 2 ^ (((level + 1 : ℕ) : ℝ) / 7) : ℝ)
  rw [← gain, hnext, Nat.cast_succ] at habove
  have hpos : (0 : ℝ) < 2 ^ ((level : ℝ) / 7) := by positivity
  have hlevel := level_le_two_rpow level
  have hgrown := mul_le_mul_of_nonneg_left hroot hpos.le
  have : (11 * gain level : ℝ) ≤ 10 * gain (level + 1) := by linarith
  exact_mod_cast this

lemma gain_mono : Monotone gain :=
  monotone_nat_of_le_succ fun level => by
    have := gain_growth level
    omega

lemma gain_one : gain 1 = 332 := gain_eq (by norm_num) (by norm_num) (by norm_num)

/-- The first step is the least one. -/
lemma le_gain {level : ℕ} (h : 1 ≤ level) : 332 ≤ gain level := gain_one.symm.le.trans (gain_mono h)

/-- The step of the highest level is the greatest one. -/
lemma gain_le {level : ℕ} (h : level ≤ 126) : gain level ≤ 78643326 := by
  have hmax : gain 126 = 78643326 := gain_eq (by norm_num) (by norm_num) (by norm_num)
  exact (gain_mono h).trans hmax.le

/-- Steps are computed without an error. -/
lemma exactly_step {level : ℕ} (hlevel : 1 ≤ level) (hmax : level ≤ 126) :
    Exactly (step level) (gain level) := by
  have hall := step_eq level (by rw [List.mem_range'_1]; omega)
  have hbound := gain_le hmax
  generalize (Binary64.truncToInt (step level)).toNat = n at hall
  obtain ⟨hstep, hle, hlow, hhigh⟩ := hall
  rw [gain_eq hle hlow hhigh] at hbound ⊢
  rw [hstep]
  exact Binary64.exactly_ofInt (by omega)

/-! ### Sums of steps -/

lemma quarters_one : quarters 1 = 0 := rfl

lemma quarters_succ {level : ℕ} (h : 1 ≤ level) :
    quarters (level + 1) = quarters level + gain level :=
  Finset.sum_Ico_succ_top h _

lemma quarters_mono {level level' : ℕ} (h : level ≤ level') : quarters level ≤ quarters level' :=
  Finset.sum_le_sum_of_subset (Finset.Ico_subset_Ico_right h)

lemma quarters_two : quarters 2 = 332 := by
  rw [quarters_succ le_rfl, quarters_one, zero_add, gain_one]

lemma le_quarters {level : ℕ} (h : 1 < level) : 332 ≤ quarters level :=
  quarters_two.symm.le.trans (quarters_mono h)

/-- A sum of steps is at most ten times the step that follows. -/
lemma quarters_le {level : ℕ} (h : 1 ≤ level) : quarters level ≤ 10 * gain level := by
  induction level, h using Nat.le_induction with
  | base => exact Nat.zero_le _
  | succ level hlevel ih =>
      have := gain_growth level
      rw [quarters_succ hlevel]
      omega

/-- All levels need less experience than the ceiling. -/
lemma quarters_le_of_le {level : ℕ} (hlevel : 1 ≤ level) (hmax : level ≤ 126) :
    quarters level ≤ 786433260 := by
  have := quarters_le hlevel
  have := gain_le hmax
  omega

/-- The sums stay far below the bound for exact numbers. -/
lemma quarters_lt {level : ℕ} (h : level ≤ 127) : quarters level < 2 ^ 50 := by
  refine (quarters_mono h).trans_lt ?_
  have := quarters_le_of_le (show 1 ≤ 126 by norm_num) le_rfl
  have := gain_le (le_refl 126)
  rw [quarters_succ (by norm_num)]
  omega

lemma stepsBelow_succ {level : ℕ} (h : 1 ≤ level) :
    stepsBelow (level + 1) = stepsBelow level + step level := by
  obtain ⟨n, rfl⟩ := Nat.exists_eq_add_of_le' h
  rw [stepsBelow, stepsBelow, Nat.add_sub_cancel, Nat.add_sub_cancel, List.range'_concat,
    List.map_append, List.foldl_append]
  simp [add_comm]

lemma fits_natCast {n : ℕ} (h : n < 2 ^ 53) : Fits n := by
  simpa using Binary64.fits_of_lt h (e := 0) (by norm_num) (by norm_num)

lemma fits_quarter {n : ℕ} (h : n < 2 ^ 53) : Fits (n / 4) := by
  have hfits := Binary64.fits_of_lt h (e := -2) (by norm_num) (by norm_num)
  rwa [show (2 : ℚ) ^ (-2 : ℤ) = 4⁻¹ by norm_num, ← div_eq_mul_inv] at hfits

lemma exactly_zero : Exactly 0 0 := ⟨0, -1074, rfl, by simp⟩

lemma exactly_four : Exactly 4 4 := ⟨2 ^ 52, -50, rfl, by norm_num⟩

/-- Sums of steps are computed without an error. -/
lemma exactly_stepsBelow {level : ℕ} (hlevel : 1 ≤ level) (hmax : level ≤ 127) :
    Exactly (stepsBelow level) (quarters level) := by
  induction level, hlevel using Nat.le_induction with
  | base => exact exactly_zero
  | succ level hlevel ih =>
      have hbound := quarters_lt hmax
      rw [quarters_succ hlevel] at hbound ⊢
      rw [stepsBelow_succ hlevel, Nat.cast_add]
      refine (ih (by omega)).add (exactly_step hlevel (by omega)) ?_
      exact_mod_cast fits_natCast (hbound.trans (by norm_num))

/-- A level needs the quarter of its sum, rounded down. -/
theorem experienceFor_eq {level : ℕ} (hlevel : 1 ≤ level) (hmax : level ≤ 127) :
    experienceFor level = (quarters level / 4 : ℕ) := by
  have hbound := quarters_lt hmax
  have hquarter := (exactly_stepsBelow hlevel hmax).div exactly_four four_ne_zero
    (fits_quarter (hbound.trans (by norm_num)))
  have hwhole : ⌊(quarters level : ℚ) / 4⌋₊ = quarters level / 4 := by
    exact_mod_cast Nat.floor_div_eq_div (K := ℚ) (quarters level) 4
  have hint := hquarter.trunc.toInt64
  rw [Nat.floor_natCast, hwhole] at hint
  rw [experienceFor, Int.toNat_natCast]
  refine hint ?_
  unfold Binary64.int64Max
  omega

/-! ### Levels -/

/-- The threshold of the next level is computed without an error, although it is no whole number. -/
lemma exactly_nextThreshold {threshold : Float} {k : ℕ} (h : Exactly threshold (quarters k / 4))
    (hk : 1 ≤ k) (hmax : k ≤ 126) :
    Exactly ((threshold * 4 + step k) / 4) (quarters (k + 1) / 4) := by
  have hbound := quarters_lt (show k + 1 ≤ 127 by omega)
  rw [quarters_succ hk] at hbound ⊢
  have hfour := h.mul exactly_four (by
    rw [div_mul_cancel₀ _ four_ne_zero]
    exact fits_natCast (by omega))
  rw [div_mul_cancel₀ _ four_ne_zero] at hfour
  have hsum := hfour.add (exactly_step hk hmax) (by exact_mod_cast fits_natCast (by omega))
  rw [← Nat.cast_add] at hsum
  exact hsum.div exactly_four four_ne_zero (fits_quarter (by omega))

lemma lt_countReached_iff {x threshold : Float} {xp k level n : ℕ} (hx : Exactly x xp)
    (hthreshold : Exactly threshold (quarters k / 4)) (hk : 1 ≤ k) (hle : k ≤ level)
    (hmax : level ≤ 127) (hn : level < k + n) :
    level - k < countReached x threshold (List.range' k n) ↔ quarters level ≤ 4 * xp := by
  induction n generalizing k threshold with
  | zero => omega
  | succ n ih =>
      have hreached : threshold ≤ x ↔ quarters k ≤ 4 * xp := by
        rw [hthreshold.le_iff hx, div_le_iff₀ four_pos, mul_comm]
        exact_mod_cast Iff.rfl
      rw [List.range'_succ, countReached]
      by_cases hk' : quarters k ≤ 4 * xp
      · rw [if_pos (hreached.mpr hk')]
        rcases hle.eq_or_lt with rfl | hlt
        · exact iff_of_true (by omega) hk'
        · have hbound := quarters_lt (show k + 1 ≤ 127 by omega)
          have hnext := exactly_nextThreshold hthreshold hk (by omega)
          have := ih hnext (by omega) hlt (by omega)
          omega
      · rw [if_neg (mt hreached.mp hk')]
        exact iff_of_false (by omega) fun h => hk' ((quarters_mono hle).trans h)

/-- A level is reached by the quarter of its sum. -/
theorem le_levelAt_iff {level xp : ℕ} (hlevel : 1 ≤ level) (hmax : level ≤ 127)
    (hxp : xp < 2 ^ 53) : level ≤ levelAt xp ↔ quarters level ≤ 4 * xp := by
  have hzero : Exactly 0 (quarters 1 / 4) := by
    rw [quarters_one, Nat.cast_zero, zero_div]
    exact exactly_zero
  have hcount := lt_countReached_iff (Binary64.exactly_ofInt hxp) hzero le_rfl hlevel hmax
    (show level < 1 + 400 by omega)
  rw [← hcount, levelAt, levels]
  omega

end ChatBot.RuneScape
