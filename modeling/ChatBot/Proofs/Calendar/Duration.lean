import Mathlib.Tactic
import ChatBot.Calendar.Countdown
import ChatBot.Proofs.Text.Blank
import ChatBot.Proofs.Text.Integer

/-!
Durations in words are exact.

* `TimeUnit`, `Amount`: the units of durations with what they are made of, and a
  count of one of them in words;
* `IsBreakdown`: the ways in which a duration is made up of units;
* `breakdown`: of each unit as many as fit. By `isBreakdown_breakdown` it is one of these ways;
* `durationText_eq`: the text shows its amounts, and `words_durationText` that they
  are found in the text again;
* `durationText_canonical`: so a duration has a text of its own.
-/

namespace ChatBot.Countdown

open Binary64 (digits)

/-! ### Units -/

/-- The units of durations. -/
inductive TimeUnit where
  | year
  | week
  | day
  | hour
  | minute
  | second
  deriving DecidableEq

namespace TimeUnit

/-- The name of a unit. -/
def name : TimeUnit → String
  | year => "year"
  | week => "week"
  | day => "day"
  | hour => "hour"
  | minute => "minute"
  | second => "second"

/-- The seconds of a unit. A year has 365 days. -/
def seconds : TimeUnit → ℕ
  | year => 365 * (24 * (60 * 60))
  | week => 7 * (24 * (60 * 60))
  | day => 24 * (60 * 60)
  | hour => 60 * 60
  | minute => 60
  | second => 1

/-- The count of a unit that is never reached beside longer units. A year has 52 weeks and a day. -/
def bound? : TimeUnit → Option ℕ
  | year => none
  | week => some 53
  | day => some 7
  | hour => some 24
  | minute => some 60
  | second => some 60

/-- The units but the last, the longest one first. -/
def long : List TimeUnit := [year, week, day, hour, minute]

/-- A unit is the next shorter one: what is left of the longer one stays below its bound. -/
def Follows (u v : TimeUnit) : Prop :=
  v.seconds < u.seconds ∧ ∀ bound ∈ v.bound?, u.seconds ≤ bound * v.seconds

lemma seconds_pos (u : TimeUnit) : 0 < u.seconds := by cases u <;> decide

lemma name_injective : Function.Injective name := by
  intro u v h
  cases u <;> cases v <;> simp_all [name]

lemma isChain_long : (long ++ [second]).IsChain Follows := by
  simp [long, Follows, seconds, bound?]

lemma pairwise_long : (long ++ [second]).Pairwise fun u v => v.seconds < u.seconds := by decide

lemma units_eq : units = long.map fun u => (u.name, u.seconds) := rfl

end TimeUnit

/-! ### Amounts -/

/-- A count of a unit. -/
structure Amount where
  count : ℕ
  unit : TimeUnit

namespace Amount

/-- The unit of an amount in words, in the plural unless there is one. -/
def unitText (a : Amount) : String := a.unit.name ++ if a.count = 1 then "" else "s"

/-- An amount in words. -/
def text (a : Amount) : String := toString a.count ++ " " ++ a.unitText

/-- The seconds of an amount. -/
def seconds (a : Amount) : ℕ := a.count * a.unit.seconds

/-- The words of an amount. -/
def words (a : Amount) : List (List Char) := [digits a.count, a.unitText.toList]

lemma part_eq (a : Amount) : part a.count a.unit.name = a.text := by
  have hplural : ((a.count : ℤ) == 1) = decide (a.count = 1) := by
    rw [beq_eq_decide]
    exact decide_eq_decide.mpr Nat.cast_eq_one
  simp only [part, text, unitText, hplural, decide_eq_true_eq, String.append_assoc]
  rfl

/-- The words tell count and unit. -/
lemma words_injective : Function.Injective words := by
  rintro ⟨m, u⟩ ⟨n, v⟩ h
  simp only [words, List.cons.injEq, and_true] at h
  obtain rfl : m = n := by
    rw [← Text.numberOfDigits_toDigits m, ← Text.numberOfDigits_toDigits n]
    exact congrArg Text.numberOfDigits h.1
  have hname : u.name = v.name := by
    have hchars := h.2
    rw [unitText, unitText, String.toList_append, String.toList_append] at hchars
    exact String.toList_inj.mp (List.append_cancel_right hchars)
  rw [TimeUnit.name_injective hname]

end Amount

/-- The amounts make up a duration: the units become shorter, every count is positive and below the
bound of its unit, and all seconds together are those of the duration. -/
structure IsBreakdown (total : ℕ) (amounts : List Amount) : Prop where
  decreasing : amounts.Pairwise fun a b => b.unit.seconds < a.unit.seconds
  count_pos : ∀ a ∈ amounts, 0 < a.count
  count_lt : ∀ a ∈ amounts, ∀ bound ∈ a.unit.bound?, a.count < bound
  sum_eq : (amounts.map Amount.seconds).sum = total

/-- Of each unit as many as fit. -/
def breakdown (total : ℕ) : List TimeUnit → List Amount
  | [] => []
  | u :: us =>
    if total < u.seconds then breakdown total us
    else ⟨total / u.seconds, u⟩ :: breakdown (total % u.seconds) us

/-- The parts of a duration show its breakdown. -/
lemma parts_eq (total : ℕ) (us : List TimeUnit) :
    parts total (us.map fun u => (u.name, u.seconds)) =
      (breakdown total (us ++ [.second])).map Amount.text := by
  induction us generalizing total with
  | nil =>
      have hpart := Amount.part_eq ⟨total, .second⟩
      rcases Nat.eq_zero_or_pos total with rfl | hpos
      · rfl
      · have hne : ((total : ℤ) == 0) = false := beq_eq_false_iff_ne.mpr (by omega)
        rw [List.map_nil, parts, hne, if_neg Bool.false_ne_true, List.nil_append, breakdown,
          if_neg (by simpa [TimeUnit.seconds] using hpos.ne'), breakdown, TimeUnit.seconds,
          Nat.div_one]
        exact congrArg ([·]) hpart
  | cons u us ih =>
      rw [List.map_cons, parts, List.cons_append, breakdown]
      rcases lt_or_ge total u.seconds with hlt | hge
      · rw [if_pos (by exact_mod_cast hlt), if_pos hlt, ih]
      · rw [if_neg (by exact_mod_cast hge.not_gt), if_neg hge.not_gt, List.map_cons,
          ← Amount.part_eq, ← ih]
        rfl

lemma sublist_breakdown (total : ℕ) (us : List TimeUnit) :
    ((breakdown total us).map Amount.unit).Sublist us := by
  induction us generalizing total with
  | nil => exact .slnil
  | cons u us ih =>
      rw [breakdown]
      split
      · exact (ih total).cons u
      · exact (ih _).cons_cons u

lemma count_pos_of_mem_breakdown {total : ℕ} {us : List TimeUnit} :
    ∀ a ∈ breakdown total us, 0 < a.count := by
  induction us generalizing total with
  | nil => exact List.forall_mem_nil _
  | cons u us ih =>
      rw [breakdown]
      split
      · exact ih
      · next hge => exact List.forall_mem_cons.mpr ⟨Nat.div_pos (not_lt.mp hge) u.seconds_pos, ih⟩

/-- What a unit leaves over is below the bound of the next one, so all
counts are if the first one is. -/
lemma count_lt_of_mem_breakdown {total : ℕ} {us : List TimeUnit}
    (hchain : us.IsChain TimeUnit.Follows)
    (hfirst : ∀ u ∈ us.head?, ∀ bound ∈ u.bound?, total < bound * u.seconds) :
    ∀ a ∈ breakdown total us, ∀ bound ∈ a.unit.bound?, a.count < bound := by
  induction us generalizing total with
  | nil => exact List.forall_mem_nil _
  | cons u us ih =>
      have hnext (rest : ℕ) (hrest : rest < u.seconds) :
          ∀ v ∈ us.head?, ∀ bound ∈ v.bound?, rest < bound * v.seconds := by
        intro v hv bound hbound
        exact hrest.trans_le ((List.isChain_cons.mp hchain).1 v hv |>.2 bound hbound)
      rw [breakdown]
      split
      · next hlt => exact ih hchain.tail (hnext total hlt)
      · refine List.forall_mem_cons.mpr ⟨fun bound hbound => ?_, ih hchain.tail (hnext _ ?_)⟩
        · exact (Nat.div_lt_iff_lt_mul u.seconds_pos).mpr (hfirst u rfl bound hbound)
        · exact Nat.mod_lt total u.seconds_pos

/-- Nothing is left over behind the seconds. -/
lemma sum_breakdown (total : ℕ) (us : List TimeUnit) :
    ((breakdown total (us ++ [.second])).map Amount.seconds).sum = total := by
  induction us generalizing total with
  | nil =>
      rw [List.nil_append, breakdown]
      split
      · next hlt => simp_all [breakdown, TimeUnit.seconds]
      · simp [breakdown, Amount.seconds, TimeUnit.seconds]
  | cons u us ih =>
      rw [List.cons_append, breakdown]
      split
      · exact ih total
      · rw [List.map_cons, List.sum_cons, ih, Amount.seconds]
        exact Nat.div_add_mod' total u.seconds

lemma isBreakdown_breakdown (total : ℕ) :
    IsBreakdown total (breakdown total (TimeUnit.long ++ [.second])) where
  decreasing := List.pairwise_map.mp (TimeUnit.pairwise_long.sublist (sublist_breakdown total _))
  count_pos := count_pos_of_mem_breakdown
  count_lt := count_lt_of_mem_breakdown TimeUnit.isChain_long
    (by simp [TimeUnit.long, TimeUnit.bound?])
  sum_eq := sum_breakdown total _

/-! ### Text -/

/-- The amounts that are shown. A duration of nothing is shown as no seconds. -/
def shown (total : ℕ) : List Amount :=
  match breakdown total (TimeUnit.long ++ [.second]) with
  | [] => [⟨0, .second⟩]
  | amounts => amounts

lemma durationText_eq (total : ℕ) :
    durationText total = " ".intercalate ((shown total).map Amount.text) := by
  rw [durationText, TimeUnit.units_eq, parts_eq, shown]
  cases breakdown total (TimeUnit.long ++ [.second]) with
  | nil => rfl
  | cons a amounts => rfl

lemma sum_shown (total : ℕ) : ((shown total).map Amount.seconds).sum = total := by
  have hsum := sum_breakdown total TimeUnit.long
  rw [shown]
  split
  · next hnil => rwa [hnil] at hsum
  · exact hsum

/-- The text of amounts is made up of their words. -/
lemma toList_intercalate_text {amounts : List Amount} :
    (" ".intercalate (amounts.map Amount.text)).toList =
      [' '].intercalate (amounts.flatMap Amount.words) := by
  induction amounts with
  | nil => rfl
  | cons a amounts ih =>
      have htext : a.text.toList = digits a.count ++ [' '] ++ a.unitText.toList := by
        rw [Amount.text, String.toList_append, String.toList_append, Text.toList_toString]
        rfl
      cases amounts with
      | nil => simp [htext, Amount.words]
      | cons b amounts =>
          rw [List.map_cons, List.map_cons, String.intercalate_cons_cons, String.toList_append,
            String.toList_append, htext, ← List.map_cons, ih]
          simp [Amount.words, List.intercalate_cons_cons]

/-- Count and unit are words. -/
lemma Amount.isWord (a : Amount) : ∀ w ∈ a.words, w ≠ [] ∧ ∀ c ∈ w, Text.isBlank c = false := by
  refine List.forall_mem_cons.mpr
    ⟨⟨Nat.toDigits_ne_nil, fun c hc => ?_⟩, List.forall_mem_singleton.mpr ?_⟩
  · exact Text.isBlank_eq_false_of_isDigit (Text.isDigit_of_mem_toDigits hc)
  · have hne : a.unitText.toList ≠ [] := by
      rw [unitText, String.toList_append]
      cases a.unit <;> exact List.append_ne_nil_of_left_ne_nil (by decide) _
    have hsolid : a.unitText.toList.all (fun c => !Text.isBlank c) = true := by
      rw [unitText, String.toList_append]
      split <;> cases a.unit <;> decide
    exact ⟨hne, fun c hc => by simpa using List.all_eq_true.mp hsolid c hc⟩

/-- The words of a duration are those of its amounts. -/
lemma words_durationText (total : ℕ) :
    Text.words (durationText total).toList = (shown total).flatMap Amount.words := by
  have hsolid : ∀ w ∈ (shown total).flatMap Amount.words,
      w ≠ [] ∧ ∀ c ∈ w, Text.isBlank c = false := by
    intro w hw
    obtain ⟨a, -, ha⟩ := List.mem_flatMap.mp hw
    exact a.isWord w ha
  rw [durationText_eq, toList_intercalate_text,
    Text.words_intercalate (fun w hw => (hsolid w hw).1) fun w hw => (hsolid w hw).2]

/-- Every amount has two words, so amounts are told from their words. -/
lemma flatMap_words_injective : Function.Injective (List.flatMap Amount.words) := by
  intro xs
  induction xs with
  | nil =>
      intro ys h
      cases ys with
      | nil => rfl
      | cons y ys => cases h
  | cons x xs ih =>
      intro ys h
      cases ys with
      | nil => cases h
      | cons y ys =>
          obtain ⟨hwords, hrest⟩ := List.append_inj h rfl
          rw [Amount.words_injective hwords, ih hrest]

lemma durationText_injective {m n : ℕ} (h : durationText m = durationText n) : m = n := by
  have hwords := congrArg (fun text : String => Text.words text.toList) h
  simp only [words_durationText] at hwords
  rw [← sum_shown m, ← sum_shown n, flatMap_words_injective hwords]

/-- **Durations**: a duration of nothing is shown as `0 seconds`, and every other one as amounts
that make it up, with one blank between them. No two durations have the same text. -/
theorem durationText_canonical (total : ℕ) :
    (durationText total = "0 seconds" ↔ total = 0) ∧
      (∃ amounts, IsBreakdown total amounts ∧
        (total ≠ 0 → amounts ≠ [] ∧
          durationText total = " ".intercalate (amounts.map Amount.text))) ∧
      ∀ other : ℕ, durationText other = durationText total → other = total := by
  refine ⟨⟨fun h => durationText_injective h, by rintro rfl; rfl⟩,
    ⟨_, isBreakdown_breakdown total, fun hne => ?_⟩, fun other => durationText_injective⟩
  have hnil : breakdown total (TimeUnit.long ++ [.second]) ≠ [] := by
    intro hnil
    have hsum := sum_breakdown total TimeUnit.long
    rw [hnil] at hsum
    exact hne hsum.symm
  refine ⟨hnil, ?_⟩
  rw [durationText_eq, shown]
  split
  · next h => exact absurd h hnil
  · rfl

/-- A day, an hour, a minute and a second are shown as amounts that make them up. -/
theorem durationText_canonical_of_day :
    (90061 : ℕ) ≠ 0 ∧ ∃ amounts, IsBreakdown 90061 amounts ∧
      durationText 90061 = " ".intercalate (amounts.map Amount.text) := by
  obtain ⟨-, ⟨amounts, hamounts, htext⟩, -⟩ := durationText_canonical 90061
  exact ⟨by norm_num, amounts, hamounts, (htext (by norm_num)).2⟩

end ChatBot.Countdown
