import Mathlib.Tactic
import ChatBot.Calendar.Countdown

/-!
Easter is a Sunday in spring.

* `Date.numberOf`: the day number of a year, month and day, with `Date.numberOf_next`: days are
  numbered one after the other;
* `IsSunday`: the day numbers of Sundays;
* `Countdown.easterOffset`: the days from the 22nd of March to Easter. By `easterOffset_bounds` they
  are at most five weeks, and by `isSunday_easterOffset` they end on a Sunday, in every year;
* `Countdown.easterDay_sunday`: what the arithmetic on the year gives.
-/

namespace ChatBot

/-! ### Day numbers -/

namespace Date

/-- The days from the first of January 1970 to a day of a year. -/
def numberOf (year : ℤ) (month day : ℕ) : ℤ :=
  daysBeforeYear year + daysBeforeMonth year month + day - 1 - epoch

lemma dayNumber_eq (d : Date) : d.dayNumber = numberOf d.year d.month d.day := rfl

lemma daysBeforeYear_succ (year : ℤ) :
    daysBeforeYear (year + 1) = daysBeforeYear year + 365 + if isLeapYear year then 1 else 0 := by
  simp only [daysBeforeYear, isLeapYear, Bool.and_eq_true, Bool.or_eq_true, beq_iff_eq, bne_iff_ne]
  split <;> omega

lemma daysBeforeMonth_succ (year : ℤ) {month : ℕ} (h : 1 ≤ month) :
    daysBeforeMonth year (month + 1) = daysBeforeMonth year month + daysInMonth year month := by
  obtain ⟨m, rfl⟩ := Nat.exists_eq_add_of_le' h
  simp [daysBeforeMonth, List.range_succ]

/-- The months of a year make up its days. -/
lemma daysBeforeMonth_thirteen (year : ℤ) :
    daysBeforeMonth year 13 = 365 + if isLeapYear year then 1 else 0 := by
  simp only [daysBeforeMonth, daysInMonth, List.range_succ]
  cases isLeapYear year <;> rfl

/-- Days are numbered one after the other: within a month, from a month to the next
and from a year to the next. -/
theorem numberOf_next (year : ℤ) (month day : ℕ) :
    numberOf year month (day + 1) = numberOf year month day + 1 ∧
      (1 ≤ month → numberOf year (month + 1) 1 = numberOf year month (daysInMonth year month) + 1) ∧
      numberOf (year + 1) 1 1 = numberOf year 12 31 + 1 := by
  refine ⟨?_, fun h => ?_, ?_⟩
  · rw [numberOf, numberOf]
    omega
  · rw [numberOf, numberOf, daysBeforeMonth_succ year h]
    omega
  · have hmonths := daysBeforeMonth_thirteen year
    rw [daysBeforeMonth_succ year (by norm_num), show daysInMonth year 12 = 31 from rfl] at hmonths
    rw [numberOf, numberOf, daysBeforeYear_succ, show daysBeforeMonth (year + 1) 1 = 0 from rfl]
    split_ifs at hmonths ⊢ <;> omega

/-- The 22nd of March is as far from the next year in every year. -/
lemma numberOf_march (year : ℤ) : numberOf year 3 22 = daysBeforeYear (year + 1) - 719447 := by
  have hmonths : daysBeforeMonth year 3 = 59 + if isLeapYear year then 1 else 0 := by
    simp only [daysBeforeMonth, daysInMonth, List.range_succ]
    cases isLeapYear year <;> rfl
  rw [numberOf, daysBeforeYear_succ, hmonths, epoch]
  split <;> omega

end Date

namespace Countdown

/-! ### The days from the 22nd of March -/

/-- The day number is that of a Sunday. The first of January 1970 is a Thursday. -/
def IsSunday (n : ℤ) : Prop := n % 7 = 3

/-- The days from the 21st of March to the full moon, not corrected. -/
def moonOffset (year : ℤ) : ℤ :=
  (19 * (year % 19) + year / 100 - year / 100 / 4 -
    (year / 100 - (year / 100 + 8) / 25 + 1) / 3 + 15) % 30

/-- The days from the day after the full moon to a Sunday. -/
def sundayOffset (year : ℤ) : ℤ :=
  (32 + 2 * (year / 100 % 4) + 2 * (year % 100 / 4) - moonOffset year - year % 100 % 4) % 7

/-- The days from the 22nd of March to Easter, which is a week earlier if the
full moon would be too late. -/
def easterOffset (year : ℤ) : ℤ :=
  moonOffset year + sundayOffset year -
    7 * ((year % 19 + 11 * moonOffset year + 22 * sundayOffset year) / 451)

lemma moonOffset_bounds (year : ℤ) : 0 ≤ moonOffset year ∧ moonOffset year ≤ 29 := by
  unfold moonOffset
  omega

lemma sundayOffset_bounds (year : ℤ) : 0 ≤ sundayOffset year ∧ sundayOffset year ≤ 6 := by
  unfold sundayOffset
  omega

/-- Easter is within five weeks. -/
lemma easterOffset_bounds (year : ℤ) : 0 ≤ easterOffset year ∧ easterOffset year ≤ 34 := by
  have hmoon := moonOffset_bounds year
  have hsunday := sundayOffset_bounds year
  have hcycle : 0 ≤ year % 19 ∧ year % 19 ≤ 18 := by omega
  unfold easterOffset
  generalize moonOffset year = h at *
  generalize sundayOffset year = l at *
  generalize year % 19 = a at *
  -- the correction is a week or nothing
  obtain hm | hm : (a + 11 * h + 22 * l) / 451 = 0 ∨ (a + 11 * h + 22 * l) / 451 = 1 := by omega
  all_goals
    rw [hm]
    omega

/-- The days of the week move on by one a year, and by one more for each leap year. -/
lemma easterOffset_emod_seven (year : ℤ) :
    (year + year / 4 - year / 100 + year / 400 + easterOffset year) % 7 = 4 := by
  have hyear : year = 100 * (year / 100) + year % 100 := by omega
  have hcentury : year / 100 = 4 * (year / 100 / 4) + year / 100 % 4 := by omega
  have hrest : year % 100 = 4 * (year % 100 / 4) + year % 100 % 4 := by omega
  have hfour : year / 4 = 25 * (year / 100) + year % 100 / 4 := by omega
  have hcenturies : year / 400 = year / 100 / 4 := by omega
  rw [hfour, hcenturies]
  unfold easterOffset sundayOffset
  generalize (_ : ℤ) / 451 = m
  generalize moonOffset year = h
  generalize year / 100 / 4 = d at *
  generalize year / 100 % 4 = e at *
  generalize year % 100 / 4 = i at *
  generalize year % 100 % 4 = k at *
  generalize year / 100 = b at *
  generalize year % 100 = c at *
  omega

/-- Easter is a Sunday. -/
lemma isSunday_easterOffset (year : ℤ) :
    IsSunday (Date.numberOf year 3 22 + easterOffset year) := by
  have hweek := easterOffset_emod_seven year
  rw [IsSunday, Date.numberOf_march, Date.daysBeforeYear]
  simp only [add_sub_cancel_right]
  omega

/-- Easter is earlier than that of the next year. -/
lemma numberOf_add_easterOffset_lt (year : ℤ) :
    Date.numberOf year 3 22 + easterOffset year <
      Date.numberOf (year + 1) 3 22 + easterOffset (year + 1) := by
  have hlate := easterOffset_bounds year
  have hearly := easterOffset_bounds (year + 1)
  rw [Date.numberOf_march, Date.numberOf_march, Date.daysBeforeYear_succ (year + 1)]
  split <;> omega

/-! ### Month and day -/

/-- From the year zero on no division is of a negative number. -/
lemma easterDay_eq {year : ℤ} (hyear : 0 ≤ year) :
    easterDay year = ((easterOffset year + 114) / 31, (easterOffset year + 114) % 31 + 1) := by
  have hmoon := moonOffset_bounds year
  have hsunday := sundayOffset_bounds year
  have hoffset := easterOffset_bounds year
  have hage : (19 * year.tmod 19 + year.tdiv 100 - (year.tdiv 100).tdiv 4 -
      (year.tdiv 100 - (year.tdiv 100 + 8).tdiv 25 + 1).tdiv 3 + 15).tmod 30 = moonOffset year := by
    simp (disch := omega) only [moonOffset, Int.tdiv_eq_ediv_of_nonneg, Int.tmod_eq_emod_of_nonneg]
  have hwait : (32 + 2 * (year.tdiv 100).tmod 4 + 2 * (year.tmod 100).tdiv 4 - moonOffset year -
      (year.tmod 100).tmod 4).tmod 7 = sundayOffset year := by
    simp (disch := omega) only [sundayOffset, Int.tdiv_eq_ediv_of_nonneg,
      Int.tmod_eq_emod_of_nonneg]
  have hcorrection : moonOffset year + sundayOffset year -
      7 * (year.tmod 19 + 11 * moonOffset year + 22 * sundayOffset year).tdiv 451 =
          easterOffset year := by
    simp (disch := omega) only [easterOffset, Int.tdiv_eq_ediv_of_nonneg,
      Int.tmod_eq_emod_of_nonneg]
  simp only [easterDay, hage, hwait, hcorrection]
  rw [Int.tdiv_eq_ediv_of_nonneg (by omega), Int.tmod_eq_emod_of_nonneg (by omega)]

/-- The day of Easter is in March or in April, and is the day number that its offset gives. -/
lemma exists_easterDay {year : ℤ} (hyear : 0 ≤ year) :
    ∃ month day : ℕ, easterDay year = ((month : ℤ), (day : ℤ)) ∧
      (month = 3 ∧ 22 ≤ day ∧ day ≤ 31 ∨ month = 4 ∧ 1 ≤ day ∧ day ≤ 25) ∧
      Date.numberOf year month day = Date.numberOf year 3 22 + easterOffset year := by
  have hbounds := easterOffset_bounds year
  rw [easterDay_eq hyear]
  obtain ⟨s, hs⟩ := Int.eq_ofNat_of_zero_le hbounds.1
  rw [hs] at hbounds ⊢
  rcases le_or_gt s 9 with hmarch | hapril
  · refine ⟨3, 22 + s, by rw [Prod.mk.injEq]; omega, .inl ⟨rfl, by omega, by omega⟩, ?_⟩
    rw [Date.numberOf, Date.numberOf]
    omega
  · refine ⟨4, s - 9, by rw [Prod.mk.injEq]; omega, .inr ⟨rfl, by omega, by omega⟩, ?_⟩
    have hmarch : daysInMonth year 3 = 31 := rfl
    rw [Date.numberOf, Date.numberOf, Date.daysBeforeMonth_succ year (by norm_num), hmarch]
    omega

lemma le_daysInMonth (year : ℤ) {month day : ℕ}
    (h : month = 3 ∧ 22 ≤ day ∧ day ≤ 31 ∨ month = 4 ∧ 1 ≤ day ∧ day ≤ 25) :
    1 ≤ day ∧ day ≤ daysInMonth year month := by
  rcases h with ⟨rfl, hlow, hhigh⟩ | ⟨rfl, hlow, hhigh⟩
  · exact ⟨by omega, hhigh⟩
  · exact ⟨hlow, hhigh.trans (by decide : 25 ≤ 30)⟩

/-- Easter of a year is in the calendar exactly if the year is. -/
lemma easter?_eq_some_iff {year : ℤ} {month day : ℕ} (hyear : 0 ≤ year)
    (heq : easterDay year = ((month : ℤ), (day : ℤ)))
    (hday : 1 ≤ day ∧ day ≤ daysInMonth year month) (d : Date) :
    easter? year = some d ↔ year ≤ maxYear ∧ d.year = year ∧ d.month = month ∧ d.day = day := by
  have hlow : minYear ≤ year := hyear.trans' (by decide)
  simp only [easter?, heq, Int.toNat_natCast]
  rw [if_pos (by simp), Date.of?]
  split
  · next hexists =>
    rw [Option.some_inj]
    constructor
    · rintro rfl
      exact ⟨hexists.2.1, rfl, rfl, rfl⟩
    · obtain ⟨y, m, k, hd⟩ := d
      rintro ⟨-, rfl, rfl, rfl⟩
      rfl
  · next hnone => exact iff_of_false nofun fun h => hnone ⟨hlow, h.1, hday.1, hday.2⟩

/-- **Easter**: from the year zero on the arithmetic gives a day from the 22nd of March to the 25th
of April, which exists, is a Sunday and is earlier than that of the next year. So there is an Easter
Sunday in every year of the calendar from the year zero on. -/
theorem easterDay_sunday {year : ℤ} (hyear : 0 ≤ year) :
    ∃ month day : ℕ, easterDay year = ((month : ℤ), (day : ℤ)) ∧
      (month = 3 ∧ 22 ≤ day ∧ day ≤ 31 ∨ month = 4 ∧ 1 ≤ day ∧ day ≤ 25) ∧
      day ≤ daysInMonth year month ∧
      IsSunday (Date.numberOf year month day) ∧
      (∃ month' day' : ℕ, easterDay (year + 1) = ((month' : ℤ), (day' : ℤ)) ∧
        Date.numberOf year month day < Date.numberOf (year + 1) month' day') ∧
      ((∃ d, easter? year = some d) ↔ year ≤ maxYear) ∧
      ∀ d, easter? year = some d →
        d.year = year ∧ d.month = month ∧ d.day = day ∧ IsSunday d.dayNumber ∧
          ∀ d', easter? (year + 1) = some d' → d.dayNumber < d'.dayNumber := by
  obtain ⟨month, day, heq, hwindow, hnumber⟩ := exists_easterDay hyear
  obtain ⟨month', day', heq', hwindow', hnumber'⟩ :=
    exists_easterDay (hyear.trans (Int.le_add_one le_rfl))
  have hday := le_daysInMonth year hwindow
  have hday' := le_daysInMonth (year + 1) hwindow'
  have hsunday : IsSunday (Date.numberOf year month day) := hnumber ▸ isSunday_easterOffset year
  have hlt : Date.numberOf year month day < Date.numberOf (year + 1) month' day' := by
    rw [hnumber, hnumber']
    exact numberOf_add_easterOffset_lt year
  have hsome := easter?_eq_some_iff hyear heq hday
  refine ⟨month, day, heq, hwindow, hday.2, hsunday, ⟨month', day', heq', hlt⟩,
    ⟨?_, fun hmax => ?_⟩, ?_⟩
  · rintro ⟨d, hd⟩
    exact ((hsome d).mp hd).1
  · exact ⟨⟨year, month, day, hyear.trans' (by decide), hmax, hday⟩,
      (hsome _).mpr ⟨hmax, rfl, rfl, rfl⟩⟩
  · intro d hd
    obtain ⟨-, hd1, hd2, hd3⟩ := (hsome d).mp hd
    refine ⟨hd1, hd2, hd3, ?_, fun d' hd' => ?_⟩
    · rw [Date.dayNumber_eq, hd1, hd2, hd3]
      exact hsunday
    · obtain ⟨-, hd1', hd2', hd3'⟩ := (easter?_eq_some_iff (by omega) heq' hday' d').mp hd'
      rw [Date.dayNumber_eq, Date.dayNumber_eq, hd1, hd2, hd3, hd1', hd2', hd3']
      exact hlt

/-- In 2024 Easter is on the 31st of March. -/
theorem easterDay_sunday_of_2024 :
    easterDay 2024 = (3, 31) ∧ IsSunday (Date.numberOf 2024 3 31) ∧ ∃ d, easter? 2024 = some d := by
  have heaster : easterDay 2024 = (3, 31) := by decide
  obtain ⟨month, day, heq, -, -, hsunday, -, hsome, -⟩ :=
    easterDay_sunday (show (0 : ℤ) ≤ 2024 by decide)
  rw [heaster, Prod.mk.injEq] at heq
  obtain ⟨rfl, rfl⟩ : month = 3 ∧ day = 31 := by omega
  exact ⟨heaster, hsunday, hsome.mpr (by decide)⟩

end Countdown

end ChatBot
