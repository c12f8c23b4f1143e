import ChatBot.Calendar.Date

/-!
Moments of time.

* `Moment`: a second since the start of 1970 and a fraction of it;
* `ClockTime`: a day and a time of the day;
* `ClockTime.secondsUntil`: the whole seconds from a moment to the start of a day.
-/

namespace ChatBot

/-- A moment: seconds since the start of 1970, and billionths of a second. A leap second is the
second before it with more than a billion of them. -/
structure Moment where
  seconds : Int
  nanos : Nat
  deriving DecidableEq, Repr, Inhabited

/-- A day, a second of it, and billionths of a second. -/
structure ClockTime where
  date : Date
  second : Nat
  nanos : Nat

/-- The seconds of a day. -/
def secondsPerDay : Nat := 86400

/-- The day and time of a moment, if the day is in the calendar. -/
def Moment.clockTime? (m : Moment) : Option ClockTime :=
  (Date.ofDayNumber? (m.seconds / secondsPerDay)).map fun date =>
    ⟨date, (m.seconds % secondsPerDay).toNat, m.nanos⟩

namespace ClockTime

/-- Billionths of a second in a second. -/
def nanosPerSecond : Nat := 1000000000

/-- Billionths of a second since the start of 1970, without leap seconds. -/
def total (t : ClockTime) : Int :=
  (t.date.dayNumber * secondsPerDay + t.second) * nanosPerSecond + t.nanos

/-- The start of a day. -/
def startOf (date : Date) : ClockTime := ⟨date, 0, 0⟩

/-- The time is not after the start of a day. -/
def isUpTo (t : ClockTime) (date : Date) : Bool :=
  t.date.dayNumber < date.dayNumber ||
    (t.date.dayNumber == date.dayNumber && t.second == 0 && t.nanos == 0)

/-- The whole seconds from a time to the start of a day. -/
def secondsUntil (t : ClockTime) (date : Date) : Int :=
  ((startOf date).total - t.total).tdiv nanosPerSecond

/-- Hours, minutes and seconds with colons between them. -/
def timeText (t : ClockTime) : List Char :=
  Date.padded 2 (t.second / 3600) ++ ':' :: Date.padded 2 (t.second / 60 % 60) ++ ':' ::
    Date.padded 2 (t.second % 60)

end ClockTime

end ChatBot
