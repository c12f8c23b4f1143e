import ChatBot.Proofs.RuneScape.Experience

/-!
The experience between two levels as a difference.

* `sumNoting_range'`: what the loop notes and sums up;
* `experienceBetween_eq`: the amount is the difference of what the two levels need, if the first one
  is below the second, and else all that the second one needs;
* `betweenText_difference_iff`: when the amount that is told is a
  difference, and when it is additive.
-/

namespace ChatBot.RuneScape

variable {start mid stop : ℕ}

/-! ### The loop -/

lemma stepsBelow_eq_foldl (level : ℕ) :
    stepsBelow level = (List.range' 1 (level - 1)).foldl (fun total k => total + step k) 0 :=
  List.foldl_map

/-- The steps are summed up, and what the start needs is noted if it is among the levels. -/
lemma sumNoting_range' (start k n : ℕ) (total : Float) (noted : Int) :
    sumNoting start total noted (List.range' k n) =
      ((List.range' k n).foldl (fun total k => total + step k) total,
        if k ≤ start ∧ start < k + n then
          Binary64.toInt64 (Binary64.trunc
            ((List.range' k (start - k)).foldl (fun total k => total + step k) total / 4))
        else noted) := by
  induction n generalizing k total noted with
  | zero => rw [List.range'_zero, sumNoting, List.foldl_nil, if_neg (by omega)]
  | succ n ih =>
      rw [List.range'_succ, sumNoting, ih, List.foldl_cons]
      congr 1
      rcases lt_trichotomy k start with hlt | rfl | hlt
      · -- the turn of the start is still to come
        obtain ⟨d, rfl⟩ : ∃ d, start = k + 1 + d := ⟨start - (k + 1), by omega⟩
        rw [if_neg hlt.ne, show k + 1 + d - (k + 1) = d by omega,
          show k + 1 + d - k = d + 1 by omega, List.range'_succ, List.foldl_cons]
        exact if_congr (by omega) rfl rfl
      · rw [if_pos rfl, if_neg (by omega), if_pos (by omega), Nat.sub_self, List.range'_zero,
          List.foldl_nil]
      · rw [if_neg hlt.ne', if_neg (by omega), if_neg (by omega)]

/-- The start counts only if it is below the stop. -/
lemma experienceBetween_eq (hstart : 1 ≤ start) (hstop : 1 ≤ stop) :
    experienceBetween start stop =
      experienceFor stop - if start < stop then experienceFor start else 0 := by
  rw [experienceBetween, sumNoting_range', experienceFor, experienceFor, Int.toNat_natCast,
    Int.toNat_natCast, stepsBelow_eq_foldl, stepsBelow_eq_foldl]
  dsimp only
  congr 1
  exact if_congr (by omega) rfl rfl

/-! ### Differences -/

/-- Only the first level needs nothing. -/
lemma experienceFor_eq_zero_iff {level : ℕ} (hlevel : 1 ≤ level) (hmax : level ≤ 127) :
    experienceFor level = 0 ↔ level = 1 := by
  rw [experienceFor_eq hlevel hmax]
  rcases hlevel.eq_or_lt with rfl | hlt
  · rw [quarters_one]
    decide
  · have hquarters := le_quarters hlt
    omega

/-- The amount is a difference unless a start above the first level is the stop. -/
lemma experienceBetween_eq_sub_iff (hstart : 1 ≤ start) (hle : start ≤ stop) (hmax : stop ≤ 127) :
    experienceBetween start stop = experienceFor stop - experienceFor start ↔
    start < stop ∨ start = 1 := by
  have hzero := experienceFor_eq_zero_iff hstart (hle.trans hmax)
  rw [experienceBetween_eq hstart (hstart.trans hle)]
  split <;> omega

/-- Amounts add up unless one of them is counted from a level to itself. -/
lemma experienceBetween_eq_add_iff (hstart : 1 ≤ start) (hle : start ≤ mid) (hle' : mid ≤ stop)
    (hmax : stop ≤ 127) :
    experienceBetween start stop = experienceBetween start mid + experienceBetween mid stop ↔
      (start < mid ∨ start = 1) ∧ (mid < stop ∨ mid = 1) := by
  have hstart' := experienceFor_eq_zero_iff hstart (by omega)
  have hmid := experienceFor_eq_zero_iff (hstart.trans hle) (hle'.trans hmax)
  rw [experienceBetween_eq hstart (by omega), experienceBetween_eq hstart (by omega),
    experienceBetween_eq (hstart.trans hle) (by omega)]
  rcases hle.eq_or_lt with rfl | hlt
  · rw [if_neg (lt_irrefl start)]
    split <;> omega
  · rw [if_pos hlt, if_pos (hlt.trans_le hle')]
    rcases hle'.eq_or_lt with rfl | hlt'
    · rw [if_neg (lt_irrefl mid)]
      omega
    · rw [if_pos hlt']
      omega

/-! ### Replies -/

lemma level?_eq_some {args : List String} {index level : ℕ} {arg : String}
    (hindex : args[index]? = some arg) (harg : arg.toInt64? = some (level : ℤ)) (hlevel : 1 ≤ level)
    (hmax : (level : ℤ) ≤ maxLevel) :
    level? args index = some (level : ℤ) := by
  have hlow : (1 : ℤ) ≤ level := by omega
  simp [level?, hindex, harg, hlow, hmax]

/-- The reply to two levels. -/
lemma betweenText_of_toInt64? {a b : String} (rest : List String)
    (ha : a.toInt64? = some (start : ℤ)) (hb : b.toInt64? = some (stop : ℤ)) (hstart : 1 ≤ start)
    (hle : start ≤ stop) (hmax : (stop : ℤ) ≤ maxLevel) :
    betweenText (a :: b :: rest) =
      s!"{shown (experienceBetween start stop)} xp between level {start} and level {stop}" := by
  have hfirst : level? (a :: b :: rest) 0 = some (start : ℤ) :=
    level?_eq_some rfl ha hstart (by omega)
  have hsecond : level? (a :: b :: rest) 1 = some (stop : ℤ) :=
    level?_eq_some rfl hb (hstart.trans hle) hmax
  rw [betweenText, hfirst, hsecond]
  rfl

/-- **Experience between levels**: for levels of the table in this order, the amount that is told
is what the second one needs less what the first one needs, except that a level above the first one
is told to be all that it needs away from itself. So the amounts add up exactly if none is counted
from such a level to itself. -/
theorem betweenText_difference_iff {a b : String} (rest : List String)
    (ha : a.toInt64? = some (start : ℤ)) (hb : b.toInt64? = some (stop : ℤ)) (hstart : 1 ≤ start)
    (hle : start ≤ stop) (hmax : (stop : ℤ) ≤ maxLevel) :
    betweenText (a :: b :: rest) =
        s!"{shown (experienceBetween start stop)} xp between level {start} and level {stop}" ∧
      experienceBetween start stop =
        experienceFor stop - (if start < stop then experienceFor start else 0) ∧
      (experienceBetween start stop = experienceFor stop - experienceFor start ↔
        start < stop ∨ start = 1) ∧
      (experienceBetween start start = 0 ↔ start = 1) ∧
      ∀ mid : ℕ, start ≤ mid → mid ≤ stop →
        (experienceBetween start stop = experienceBetween start mid + experienceBetween mid stop ↔
          (start < mid ∨ start = 1) ∧ (mid < stop ∨ mid = 1)) := by
  have hmax' : stop ≤ 127 := (Int.ofNat_le.mp hmax).trans (Nat.le_succ _)
  have hself := experienceBetween_eq_sub_iff hstart le_rfl (hle.trans hmax')
  rw [sub_self, or_iff_right (lt_irrefl start)] at hself
  exact ⟨betweenText_of_toInt64? rest ha hb hstart hle hmax,
    experienceBetween_eq hstart (hstart.trans hle), experienceBetween_eq_sub_iff hstart hle hmax',
    hself, fun _ h h' => experienceBetween_eq_add_iff hstart h h' hmax'⟩

/-- From the second level to the fourth the amount is a difference, in one or in two parts. -/
theorem betweenText_difference_iff_of_lt :
    "2".toInt64? = some ((2 : ℕ) : ℤ) ∧ "4".toInt64? = some ((4 : ℕ) : ℤ) ∧
      experienceBetween 2 4 = experienceFor 4 - experienceFor 2 ∧
      experienceBetween 2 4 = experienceBetween 2 3 + experienceBetween 3 4 := by
  have htwo : "2".toInt64? = some ((2 : ℕ) : ℤ) := rfl
  have hfour : "4".toInt64? = some ((4 : ℕ) : ℤ) := rfl
  obtain ⟨-, -, hsub, -, hadd⟩ :=
    betweenText_difference_iff [] htwo hfour (by norm_num) (by norm_num) (by decide)
  exact ⟨htwo, hfour, hsub.mpr (.inl (by norm_num)),
    (hadd 3 (by norm_num) (by norm_num)).mpr (by norm_num)⟩

/-- The second level is told to be as far from itself as from the first one. -/
theorem betweenText_two_two :
    betweenText ["2", "2"] = "83 xp between level 2 and level 2" ∧ experienceBetween 2 2 = 83 ∧
      experienceFor 2 - experienceFor 2 = 0 ∧
      experienceBetween 2 2 ≠ experienceBetween 2 2 + experienceBetween 2 2 := by
  have hneeds : experienceFor ((2 : ℕ) : ℤ) = 83 := by
    rw [experienceFor_eq one_le_two (by norm_num), quarters_two]
    rfl
  have hbetween : experienceBetween 2 2 = 83 := by
    rw [experienceBetween_eq one_le_two one_le_two, if_neg (lt_irrefl 2), hneeds]
    rfl
  have htwo : "2".toInt64? = some ((2 : ℕ) : ℤ) := rfl
  refine ⟨?_, hbetween, sub_self _, ?_⟩
  · rw [betweenText_of_toInt64? [] htwo htwo one_le_two le_rfl (by decide), hbetween]
    rfl
  · rw [hbetween]
    decide

end ChatBot.RuneScape
