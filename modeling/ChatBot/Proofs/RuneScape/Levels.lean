import ChatBot.Proofs.Binary64.Decimal
import ChatBot.Proofs.RuneScape.Experience
import ChatBot.Proofs.Text.Grouping

/-!
Levels and experience, each asked for by the other.

* `experienceText_of_digits`: what the reply to an amount of experience is, with or without commas;
* `levelAt_experienceFor`: the level that is reached by the experience that a level needs. It is the
  level itself only if the experience was not rounded down;
* `le_levelAt_iff_experienceFor`: when the two functions agree, and what the replies are.
-/

namespace ChatBot.RuneScape

open Binary64 (Exactly)

variable {level xp : ℕ}

/-! ### Thresholds -/

/-- Only the experience that a level needs itself may be too little, which is
so if it was rounded down. -/
lemma le_levelAt_iff_experienceFor_le (hlevel : 1 ≤ level) (hmax : level ≤ 127)
    (hxp : xp < 2 ^ 53) :
    (level ≤ levelAt xp ↔ experienceFor level ≤ xp) ↔
    (experienceFor level = xp → 4 ∣ quarters level) := by
  rw [le_levelAt_iff hlevel hmax hxp, experienceFor_eq hlevel hmax]
  omega

/-- The level that is reached by the experience that a level needs. -/
lemma levelAt_experienceFor (hlevel : 1 ≤ level) (hmax : level ≤ 126) :
    levelAt (experienceFor level) = if 4 ∣ quarters level then level else level - 1 := by
  have hbound := quarters_le_of_le hlevel hmax
  have hxp : quarters level / 4 < 2 ^ 53 := by omega
  rw [experienceFor_eq hlevel (by omega)]
  -- the levels next to this one are a step of at least 332 away
  have hhere := le_levelAt_iff hlevel (by omega) hxp
  have habove := le_levelAt_iff (show 1 ≤ level + 1 by omega) (by omega) hxp
  have hstep := le_gain hlevel
  rw [quarters_succ hlevel] at habove
  obtain rfl | ⟨below, rfl⟩ : level = 1 ∨ ∃ below, level = below + 1 + 1 :=
    hlevel.eq_or_lt.imp Eq.symm fun h => ⟨level - 2, by omega⟩
  · rw [quarters_one] at hhere habove ⊢
    simp only [dvd_zero, if_true]
    omega
  · have hbelow := le_levelAt_iff (show 1 ≤ below + 1 by omega) (by omega) hxp
    have hstep' := le_gain (show 1 ≤ below + 1 by omega)
    rw [quarters_succ (show 1 ≤ below + 1 by omega)] at hbelow hhere habove ⊢
    split <;> omega

/-- A level above the first needs a point at least. -/
lemma exists_experienceFor_eq_succ (hlevel : 1 < level) (hmax : level ≤ 126) :
    ∃ n : ℕ, experienceFor level = n + 1 ∧ n ≤ 200000000 ∧ 4 * n < quarters level := by
  have hbound := quarters_le_of_le hlevel.le hmax
  have hquarters := le_quarters hlevel
  refine ⟨quarters level / 4 - 1, ?_, by omega, by omega⟩
  rw [experienceFor_eq hlevel.le (by omega)]
  omega

/-- A point less than the experience that a level needs is too little. -/
lemma levelAt_sub_one_lt (hlevel : 1 < level) (hmax : level ≤ 126) :
    levelAt (experienceFor level - 1) < level := by
  obtain ⟨n, heq, hn, hlt⟩ := exists_experienceFor_eq_succ hlevel hmax
  rw [heq, add_sub_cancel_right, ← not_le, le_levelAt_iff hlevel.le (by omega) (by omega)]
  omega

/-! ### Replies -/

/-- The reply to an amount of experience, which may be written with commas. -/
lemma experienceText_of_digits {arg : String}
    (harg : arg.toList.filter (· ≠ ',') = Binary64.digits xp)
    (hxp : xp ≤ 200000000) :
    experienceText (some arg) = s!"{shown xp} xp = level {levelAt xp}" := by
  obtain ⟨x, hread, hx⟩ := Binary64.exactly_ofText?_digits (show xp < 2 ^ 53 by omega)
  have hceiling : Exactly ceiling 200000001 := ⟨200000001 * 2 ^ 25, -25, rfl, by norm_num⟩
  have hlow : 0 ≤ x := (exactly_zero.le_iff hx).mpr (Nat.cast_nonneg xp)
  have hhigh : x < ceiling := (hx.lt_iff hceiling).mpr (by exact_mod_cast Nat.lt_succ_of_le hxp)
  have hwhole : Binary64.toInt64 x = xp := by
    have := hx.toInt64
    rw [Nat.floor_natCast] at this
    exact this (by unfold Binary64.int64Max; omega)
  simp only [experienceText, harg, hread, hlow, hhigh, decide_true, Bool.and_self, if_true, hwhole]

lemma experienceText_shown (hxp : xp ≤ 200000000) :
    experienceText (some (shown xp)) = s!"{shown xp} xp = level {levelAt xp}" := by
  refine experienceText_of_digits ?_ hxp
  rw [shown, String.toList_ofList, Text.filter_withCommas]
  exact Text.toList_toString xp

/-- The reply to a level. -/
lemma levelText_of_toInt64? {arg : String} (harg : arg.toInt64? = some (level : ℤ))
    (hlevel : 1 ≤ level) (hmax : (level : ℤ) ≤ maxLevel) :
    levelText (some arg) = s!"Runescape Level {level} = {shown (experienceFor level)} xp" := by
  have hlow : ¬(level : ℤ) < 1 := by omega
  simp only [levelText, harg, hlow, hmax, if_false, if_true]
  rfl

/-- **Levels and experience**: a level of the table is reached by exactly the amounts that are no
less than the experience it needs, except for this experience itself if it was rounded down. Asked
for with the experience that was told for a level, the command answers this level, or the level
below if the experience was rounded down; a point less gives a lower level. -/
theorem le_levelAt_iff_experienceFor (hlevel : 1 ≤ level) (hmax : (level : ℤ) ≤ maxLevel)
    (hxp : xp ≤ 200000000) :
    ((level ≤ levelAt xp ↔ experienceFor level ≤ xp) ↔
      (experienceFor level = xp → 4 ∣ quarters level)) ∧
      levelAt (experienceFor level) = (if 4 ∣ quarters level then level else level - 1) ∧
      (1 < level → levelAt (experienceFor level - 1) < level) ∧
      (∀ arg : String, arg.toInt64? = some (level : ℤ) →
        levelText (some arg) = s!"Runescape Level {level} = {shown (experienceFor level)} xp") ∧
      experienceText (some (shown (experienceFor level))) =
        s!"{shown (experienceFor level)} xp = level {levelAt (experienceFor level)}" ∧
      (1 < level → experienceText (some (shown (experienceFor level - 1))) =
        s!"{shown (experienceFor level - 1)} xp = level {levelAt (experienceFor level - 1)}") := by
  have hmax' : level ≤ 126 := Int.ofNat_le.mp hmax
  refine ⟨le_levelAt_iff_experienceFor_le hlevel (by omega) (by omega),
    levelAt_experienceFor hlevel hmax', fun h => levelAt_sub_one_lt h hmax',
    fun _ harg => levelText_of_toInt64? harg hlevel hmax, ?_, fun h => ?_⟩
  · have hbound := quarters_le_of_le hlevel hmax'
    rw [experienceFor_eq hlevel (by omega)]
    exact experienceText_shown (by omega)
  · obtain ⟨n, heq, hn, -⟩ := exists_experienceFor_eq_succ h hmax'
    rw [heq, add_sub_cancel_right]
    exact experienceText_shown hn

/-- The second level needs 83 points, which are no rounded number, and is reached by them. -/
theorem le_levelAt_iff_experienceFor_two :
    4 ∣ quarters 2 ∧ levelAt (experienceFor 2) = 2 ∧
      ∀ xp : ℕ, xp ≤ 200000000 → (2 ≤ levelAt xp ↔ experienceFor 2 ≤ xp) := by
  have hdvd : 4 ∣ quarters 2 := by
    rw [quarters_two]
    norm_num
  have hat {xp : ℕ} (hxp : xp ≤ 200000000) :=
    le_levelAt_iff_experienceFor one_le_two (show ((2 : ℕ) : ℤ) ≤ maxLevel by decide) hxp
  exact ⟨hdvd, (hat (Nat.zero_le _)).2.1.trans (if_pos hdvd),
    fun xp hxp => (hat hxp).1.mpr fun _ => hdvd⟩

/-- The third level needs 174 and three quarters of a point, and is told to need
174, which do not reach it. -/
theorem not_le_levelAt_experienceFor_three :
    experienceFor 3 = 174 ∧ levelAt 174 = 2 ∧ levelText (some "3") = "Runescape Level 3 = 174 xp" ∧
      experienceText (some "174") = "174 xp = level 2" ∧
      ¬∀ level xp : ℕ, 1 ≤ level → (level : ℤ) ≤ maxLevel → xp ≤ 200000000 →
        (level ≤ levelAt xp ↔ experienceFor level ≤ xp) := by
  have hquarters : quarters 3 = 699 := by
    have hgain : gain 2 = 367 := gain_eq (by norm_num) (by norm_num) (by norm_num)
    rw [quarters_succ one_le_two, quarters_two, hgain]
  have hthird : 1 ≤ 3 ∧ ((3 : ℕ) : ℤ) ≤ maxLevel := by decide
  have hneeds : experienceFor ((3 : ℕ) : ℤ) = 174 := by
    rw [experienceFor_eq hthird.1 (by norm_num), hquarters]
    rfl
  have hat : levelAt 174 = 2 := by
    have := levelAt_experienceFor hthird.1 (show 3 ≤ 126 by norm_num)
    rwa [hneeds, hquarters, if_neg (by norm_num)] at this
  have htold : levelText (some "3") = "Runescape Level 3 = 174 xp" := by
    rw [levelText_of_toInt64? rfl hthird.1 hthird.2, hneeds]
    rfl
  have hreached : experienceText (some "174") = "174 xp = level 2" := by
    rw [experienceText_of_digits (show _ = Binary64.digits 174 from rfl) (by norm_num),
      Nat.cast_ofNat, hat]
    rfl
  refine ⟨hneeds, hat, htold, hreached, fun h => ?_⟩
  have hthree : 3 ≤ levelAt 174 := (h 3 174 (by norm_num) (by decide) (by norm_num)).mpr hneeds.le
  omega

end ChatBot.RuneScape
