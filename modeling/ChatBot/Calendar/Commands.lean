import ChatBot.Calendar.Countdown
import ChatBot.Command.Basic

/-!
The commands that count down.

* `Timer`: a period that starts over and over again;
* `commands`: the commands for holidays and for timers.
-/

namespace ChatBot.Countdown

/-- A command for a period that starts over and over again. The period is in seconds, and the event
is what happens at its end. -/
structure Timer where
  name : String
  period : Int
  event : String
  deriving DecidableEq, Repr

/-- The timers. -/
def timers : List Timer :=
  [⟨"reset", 86400, "reset"⟩, ⟨"warbands", 25200, "Warbands"⟩, ⟨"cache", 10800, "Guthixian Cache"⟩]

/-- The command of a timer. -/
def Timer.command (t : Timer) : Command where
  name := t.name
  description := "Time until " ++ t.event
  handler := some fun _ c =>
    .say s!"{durationText (untilNextPeriod c.now.seconds t.period)} until {t.event}."

/-- The command of a holiday. -/
def holidayCommand (name holiday : String) (secondsLeft : ClockTime → Int) : Command where
  name := name
  description := "Time until " ++ holiday
  handler := some fun _ c =>
    .say s!"{durationText ((c.now.clockTime?.map secondsLeft).getD 0)} until {holiday}!"

/-- The commands that count down. -/
def commands : List Command :=
  [holidayCommand "christmas" "Christmas" untilChristmas,
   holidayCommand "easter" "Easter" untilEaster] ++ timers.map Timer.command

end ChatBot.Countdown
