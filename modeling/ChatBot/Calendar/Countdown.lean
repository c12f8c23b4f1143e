import ChatBot.Calendar.Moment

/-!
Countdowns to holidays and to the end of periods.

* `easterDay`, `easter?`: Easter Sunday of a year;
* `nextDay?`, `untilNext`: the next occurrence of a day of the year and the seconds to it, with
  `untilChristmas` and `untilEaster`;
* `untilNextPeriod`: the seconds that are left of the current period;
* `durationText`: a number of seconds in words.
-/

namespace ChatBot.Countdown

/-- The month and the day of the Sunday after the first full moon of spring, by arithmetic on the
year. All divisions and remainders go toward zero. -/
def easterDay (year : Int) : Int × Int :=
  let a := year.tmod 19
  let b := year.tdiv 100
  let c := year.tmod 100
  let d := b.tdiv 4
  let e := b.tmod 4
  let f := (b + 8).tdiv 25
  let g := (b - f + 1).tdiv 3
  let h := (19 * a + b - d - g + 15).tmod 30
  let i := c.tdiv 4
  let k := c.tmod 4
  let l := (32 + 2 * e + 2 * i - h - k).tmod 7
  let m := (a + 11 * h + 22 * l).tdiv 451
  let n := h + l - 7 * m + 114
  (n.tdiv 31, n.tmod 31 + 1)

/-- Easter Sunday of a year. -/
def easter? (year : Int) : Option Date :=
  let (month, day) := easterDay year
  if 0 ≤ month && 0 ≤ day then Date.of? year month.toNat day.toNat else none

/-- Christmas of a year. -/
def christmas? (year : Int) : Option Date := Date.of? year 12 25

/-- The day of this year, or of the next year if that has passed. -/
def nextDay? (dayOf? : Int → Option Date) (now : ClockTime) : Option Date :=
  match (dayOf? now.date.year).filter now.isUpTo with
  | some date => some date
  | none => dayOf? (now.date.year + 1)

/-- The seconds until the start of the next such day; zero if there is none. -/
def untilNext (dayOf? : Int → Option Date) (now : ClockTime) : Int :=
  match nextDay? dayOf? now with
  | some date => now.secondsUntil date
  | none => 0

/-- The seconds until Christmas. -/
def untilChristmas (now : ClockTime) : Int := untilNext christmas? now

/-- The seconds until Easter. -/
def untilEaster (now : ClockTime) : Int := untilNext easter? now

/-- The seconds left of the current period, where periods start with the year 1970. -/
def untilNextPeriod (now period : Int) : Int := period - now % period

/-- The units of durations but the last, in seconds. -/
def units : List (String × Nat) :=
  [("year", 31536000), ("week", 604800), ("day", 86400), ("hour", 3600), ("minute", 60)]

/-- A count and its unit, which is in the plural unless the count is one. -/
def part (count : Int) (unit : String) : String :=
  toString count ++ " " ++ unit ++ (if count == 1 then "" else "s")

/-- The parts of a duration: of each unit as many as fit, and the seconds that are left. -/
def parts (seconds : Int) : List (String × Nat) → List String
  | [] => if seconds == 0 then [] else [part seconds "second"]
  | (unit, length) :: rest =>
    if seconds < length then parts seconds rest
    else part (seconds / length) unit :: parts (seconds % length) rest

/-- A duration in words. -/
def durationText (seconds : Int) : String :=
  match parts seconds units with
  | [] => part 0 "second"
  | words => " ".intercalate words

end ChatBot.Countdown
