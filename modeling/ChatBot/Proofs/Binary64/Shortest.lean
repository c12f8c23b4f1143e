import Mathlib.Tactic
import ChatBot.Binary64.Shortest

/-!
The shortest decimals of binary64 numbers are small.

* `Interval.exists_pointOn`: a grid that is fine enough has a point in an interval;
* `factors_le_of_grids_eq`: the grid that is found is not much finer than the interval,
  as the next one is too coarse;
* `shortest_spec`: the shortest decimal of a positive number has a significand that is not zero and
  fits 64 bits, and an exponent of three digits.
-/

namespace ChatBot.Binary64

namespace Interval

variable {i : Interval} {tie : Tie} {g : ℤ} {n : ℕ}

lemma factors_pos (i : Interval) (g : ℤ) : 0 < (i.factors g).1 ∧ 0 < (i.factors g).2 := by
  unfold factors
  constructor <;> split_ifs <;> positivity

/-- The steps of the next coarser grid are ten times as long. -/
lemma factors_succ (i : Interval) (g : ℤ) :
    (i.factors (g + 1)).2 * (i.factors g).1 = 10 * (i.factors g).2 * (i.factors (g + 1)).1 := by
  simp only [factors]
  generalize (if 0 ≤ i.unit then 2 ^ i.unit.toNat else 1) = units
  generalize (if 0 ≤ i.unit then 1 else 2 ^ (-i.unit).toNat) = perUnit
  rcases le_or_gt 0 g with hg | hg
  · have hnext : (g + 1).toNat = g.toNat + 1 := by omega
    rw [if_pos hg, if_pos hg, if_pos (by omega), if_pos (by omega), hnext, pow_succ]
    ring
  · rw [if_neg hg.not_ge, if_neg hg.not_ge]
    rcases eq_or_lt_of_le (Int.add_one_le_of_lt hg) with hzero | hneg
    · obtain rfl : g = -1 := by omega
      norm_num
      ring
    · have hnext : (-g).toNat = (-(g + 1)).toNat + 1 := by omega
      rw [if_neg hneg.not_ge, if_neg hneg.not_ge, hnext, pow_succ]
      ring

/-- A point of a grid that is found lies between the ends of the interval. -/
lemma bounds_of_pointOn (h : i.pointOn tie g = some n) :
    i.low * (i.factors g).1 ≤ n * (i.factors g).2 ∧
    n * (i.factors g).2 ≤ i.high * (i.factors g).1 := by
  have hholds : i.holds (i.factors g).1 (i.factors g).2 n = true := by
    simp only [pointOn] at h
    split at h
    · simp at h
    · next hbelow _ => exact Option.some.inj h ▸ hbelow
    · next _ habove => exact Option.some.inj h ▸ habove
    · next hbelow habove =>
      split at h
      · exact Option.some.inj h ▸ hbelow
      · split at h
        · exact Option.some.inj h ▸ habove
        · cases tie with
          | up => exact Option.some.inj h ▸ habove
          | even =>
              rw [← Option.some.inj h]
              split
              · exact hbelow
              · exact habove
  unfold holds at hholds
  split at hholds
  · simpa using hholds
  · obtain ⟨hlow, hhigh⟩ := Bool.and_eq_true_iff.mp hholds
    exact ⟨(of_decide_eq_true hlow).le, (of_decide_eq_true hhigh).le⟩

/-- A grid has a point in the interval if its steps are shorter than the way to the upper end. -/
lemma exists_pointOn (hhigh : i.high = i.middle + 2) (hlow : i.low ≤ i.middle)
    (h : (i.factors g).2 < 2 * (i.factors g).1) : ∃ n, i.pointOn tie g = some n := by
  obtain ⟨-, hstep⟩ := i.factors_pos g
  simp only [pointOn]
  generalize (i.factors g).1 = unit at h ⊢
  generalize (i.factors g).2 = step at h hstep ⊢
  -- the first point above the middle lies below the upper end
  have habove : i.holds unit step (i.middle * unit / step + 1) = true := by
    have hdiv := Nat.div_add_mod (i.middle * unit) step
    have hmod := Nat.mod_lt (i.middle * unit) hstep
    have hmiddle : i.middle * unit < (i.middle * unit / step + 1) * step := by
      rw [add_mul, one_mul, mul_comm _ step]
      omega
    have hend : (i.middle * unit / step + 1) * step < i.high * unit := by
      rw [hhigh, add_mul, add_mul, one_mul, mul_comm _ step]
      omega
    have hstart : i.low * unit < (i.middle * unit / step + 1) * step :=
      (Nat.mul_le_mul_right unit hlow).trans_lt hmiddle
    unfold holds
    split
    · simp [hstart.le, hend.le]
    · simp [hstart, hend]
  split
  · next hnone => exact absurd (habove.symm.trans hnone) (by simp)
  · exact ⟨_, rfl⟩
  · exact ⟨_, rfl⟩
  · split
    · exact ⟨_, rfl⟩
    · split
      · exact ⟨_, rfl⟩
      · cases tie with
        | up => exact ⟨_, rfl⟩
        | even => exact ⟨_, rfl⟩

/-- A grid is fine enough for all numbers if its steps are shorter than two of the least units. -/
lemma factors_finest {p q : ℕ} (hgrid : 2 ^ p < 2 * 10 ^ q) (hq : 0 < q) (h : -p ≤ i.unit) :
    (i.factors (-q)).2 < 2 * (i.factors (-q)).1 := by
  have hneg : ¬(0 : ℤ) ≤ -q := by omega
  have hplaces : (- -(q : ℤ)).toNat = q := by omega
  simp only [factors, hneg, if_false, hplaces, one_mul]
  rcases le_or_gt 0 i.unit with hunit | hunit
  · rw [if_pos hunit, if_pos hunit]
    exact Nat.one_lt_two.trans_le (Nat.le_mul_of_pos_right 2 (by positivity))
  · rw [if_neg hunit.not_ge, if_neg hunit.not_ge, one_mul]
    calc 2 ^ (-i.unit).toNat ≤ 2 ^ p := Nat.pow_le_pow_right Nat.two_pos (by omega)
      _ < 2 * 10 ^ q := hgrid

/-- A grid is too coarse for all numbers if its steps are longer than the greatest units. -/
lemma factors_coarsest {p q : ℕ} (hgrid : 2 * 2 ^ p ≤ 10 * 10 ^ q) (h : i.unit ≤ p) :
    2 * (i.factors q).1 ≤ 10 * (i.factors q).2 := by
  have hpos : (0 : ℤ) ≤ q := by omega
  simp only [factors, hpos, if_true, Int.toNat_natCast, mul_one]
  rcases le_or_gt 0 i.unit with hunit | hunit
  · rw [if_pos hunit, if_pos hunit, mul_one]
    calc 2 * 2 ^ i.unit.toNat ≤ 2 * 2 ^ p :=
          Nat.mul_le_mul_left 2 (Nat.pow_le_pow_right Nat.two_pos (by omega))
      _ ≤ 10 * 10 ^ q := hgrid
  · rw [if_neg hunit.not_ge, if_neg hunit.not_ge]
    have hsteps : 1 ≤ 10 ^ q * 2 ^ (-i.unit).toNat := Nat.one_le_iff_ne_zero.mpr (by positivity)
    exact Nat.mul_le_mul (by norm_num) hsteps

end Interval

/-! ### The first grid with a point -/

lemma mem_grids_iff {g : ℤ} : g ∈ grids ↔ -345 ≤ g ∧ g ≤ 309 := by
  simp only [grids, List.mem_map, List.mem_range]
  constructor
  · rintro ⟨k, hk, rfl⟩
    omega
  · rintro ⟨hlow, hhigh⟩
    exact ⟨(309 - g).toNat, by omega, by omega⟩

/-- The grids in front of one are the coarser ones. -/
lemma succ_mem_of_grids_eq {g : ℤ} {before behind : List ℤ} (h : grids = before ++ g :: behind)
    (hg : g < 309) : g + 1 ∈ before := by
  have hat : ∀ k : ℕ, grids[k]? = if k < 655 then some (309 - (k : ℤ)) else none := by
    intro k
    unfold grids
    rw [List.getElem?_map]
    split
    · next hk => rw [List.getElem?_range hk, Option.map_some]
    · next hk => rw [List.getElem?_eq_none (by simpa using hk), Option.map_none]
  have hself : grids[before.length]? = some g := by
    rw [h, List.getElem?_append_right le_rfl, Nat.sub_self]
    rfl
  rw [hat] at hself
  split at hself
  · next hlength =>
    have hcount : g = 309 - (before.length : ℤ) := (Option.some.inj hself).symm
    have hprevious : grids[before.length - 1]? = some (g + 1) := by
      rw [hat, if_pos (by omega), hcount]
      exact congrArg some (by omega)
    rw [h, List.getElem?_append_left (by omega)] at hprevious
    exact List.mem_of_getElem? hprevious
  · simp at hself

section Around

variable {m : ℕ} {e : ℤ}

/-- The first grid with a point is not much finer than the interval. -/
lemma factors_le_of_grids_eq {tie : Tie} {g : ℤ} {before behind : List ℤ} (hhigh : e ≤ 971)
    (hgrids : grids = before ++ g :: behind)
    (hnone : ∀ x ∈ before, (Interval.around m e).pointOn tie x = none) :
    2 * ((Interval.around m e).factors g).1 ≤ 10 * ((Interval.around m e).factors g).2 := by
  have hg : g ∈ grids := by
    rw [hgrids]
    exact List.mem_append_right _ List.mem_cons_self
  rcases eq_or_lt_of_le (mem_grids_iff.mp hg).2 with rfl | hlt
  · exact Interval.factors_coarsest (p := 969) (by decide +kernel) (sub_le_iff_le_add.mpr hhigh)
  · by_contra hfine
    have hsucc := (Interval.around m e).factors_succ g
    have hunit := (Interval.around m e).factors_pos (g + 1)
    obtain ⟨n, hn⟩ : ∃ n, (Interval.around m e).pointOn tie (g + 1) = some n := by
      refine Interval.exists_pointOn rfl (Nat.sub_le _ _) ?_
      refine lt_of_mul_lt_mul_right ?_ ((Interval.around m e).factors g).1.zero_le
      rw [hsucc, mul_assoc 2, mul_comm _ ((Interval.around m e).factors g).1, ← mul_assoc]
      exact Nat.mul_lt_mul_of_pos_right (not_le.mp hfine) hunit.1
    exact nomatch (hnone (g + 1) (succ_mem_of_grids_eq hgrids hlt)).symm.trans hn

/-- The shortest decimal of a positive number has a significand that is not zero and fits 64 bits,
and an exponent of three digits. -/
theorem shortest_spec (tie : Tie) (hpos : 0 < m) (hm : m < 2 ^ 53) (hlow : -1074 ≤ e)
    (hhigh : e ≤ 971) :
    0 < (shortest tie m e).significand ∧ (shortest tie m e).significand < 2 ^ 58 ∧
      -345 ≤ (shortest tie m e).exponent ∧ (shortest tie m e).exponent ≤ 309 := by
  simp only [shortest]
  cases hfind : grids.findSome? fun g =>
    ((Interval.around m e).pointOn tie g).map fun n => (⟨n, g⟩ : Decimal) with
  | none =>
      obtain ⟨n, hn⟩ : ∃ n, (Interval.around m e).pointOn tie (-345) = some n :=
        Interval.exists_pointOn rfl (Nat.sub_le _ _)
          (Interval.factors_finest (p := 1076) (q := 345) (by decide +kernel) (by norm_num)
            (le_sub_iff_add_le.mpr hlow))
      have hnone := List.findSome?_eq_none_iff.mp hfind (-345) (mem_grids_iff.mpr (by norm_num))
      rw [hn] at hnone
      exact nomatch hnone
  | some d =>
      obtain ⟨before, g, behind, hgrids, hpoint, hnone⟩ := List.findSome?_eq_some_iff.mp hfind
      obtain ⟨n, hn, rfl⟩ := Option.map_eq_some_iff.mp hpoint
      have hg : g ∈ grids := by
        rw [hgrids]
        exact List.mem_append_right _ List.mem_cons_self
      obtain ⟨hstart, hend⟩ := Interval.bounds_of_pointOn hn
      have hcoarse := factors_le_of_grids_eq (m := m) hhigh hgrids fun x hx =>
        Option.map_eq_none_iff.mp (hnone x hx)
      obtain ⟨hunit, hstep⟩ := (Interval.around m e).factors_pos g
      rw [show (Interval.around m e).high = 4 * m + 2 from rfl] at hend
      refine ⟨Nat.pos_of_ne_zero fun hzero => ?_, ?_, mem_grids_iff.mp hg⟩
      · have hstart' : 0 < (Interval.around m e).low := by
          simp only [Interval.around]
          split <;> omega
        have hprod := Nat.mul_pos hstart' hunit
        simp only [Option.getD_some] at hzero
        rw [hzero, zero_mul] at hstart
        omega
      · have hbound : n * ((Interval.around m e).factors g).2 ≤
            5 * (4 * m + 2) * ((Interval.around m e).factors g).2 := by
          calc n * ((Interval.around m e).factors g).2
              ≤ (4 * m + 2) * ((Interval.around m e).factors g).1 := hend
            _ ≤ (4 * m + 2) * (5 * ((Interval.around m e).factors g).2) :=
                Nat.mul_le_mul_left _ (by omega)
            _ = 5 * (4 * m + 2) * ((Interval.around m e).factors g).2 := by ring
        have hn' := Nat.le_of_mul_le_mul_right hbound hstep
        simp only [Option.getD_some]
        omega

end Around

end ChatBot.Binary64
