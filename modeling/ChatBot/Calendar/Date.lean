import ChatBot.Binary64.Layout
import ChatBot.Text.Blank
import ChatBot.Text.Digit

/-!
Days of the Gregorian calendar, which is extended to all years.

* `Date`: a day that exists, in a year from `minYear` to `maxYear`;
* `Date.dayNumber`: the days since the first of January 1970, and `Date.ofDayNumber?`, the day of a
  number;
* `Date.text`, `Date.ofText?`: a day as year, month and day of the month, written and read.
-/

namespace ChatBot

-- Sums are those of the core library, whatever else is imported.
attribute [local instance (high)] Zero.ofOfNat0

/-- The first year of the calendar. -/
def minYear : Int := -262143

/-- The last year of the calendar. -/
def maxYear : Int := 262142

/-- A year with a twenty-ninth of February. -/
def isLeapYear (year : Int) : Bool := year % 4 == 0 && (year % 100 != 0 || year % 400 == 0)

/-- The number of days of a month; zero for what is no month. -/
def daysInMonth (year : Int) (month : Nat) : Nat :=
  match month with
  | 2 => if isLeapYear year then 29 else 28
  | 4 | 6 | 9 | 11 => 30
  | 1 | 3 | 5 | 7 | 8 | 10 | 12 => 31
  | _ => 0

/-- A day exists. -/
def IsDay (year : Int) (month day : Nat) : Prop :=
  minYear ≤ year ∧ year ≤ maxYear ∧ 1 ≤ day ∧ day ≤ daysInMonth year month

instance (year : Int) (month day : Nat) : Decidable (IsDay year month day) := by
  unfold IsDay
  infer_instance

/-- A day that exists. Months and days are counted from one on. -/
structure Date where
  year : Int
  month : Nat
  day : Nat
  exists_day : IsDay year month day

namespace Date

/-- The day of a year, month and day of the month, if it exists. -/
def of? (year : Int) (month day : Nat) : Option Date :=
  if h : IsDay year month day then some ⟨year, month, day, h⟩ else none

/-- The number of days before a year, counted from the first of January of the year one. -/
def daysBeforeYear (year : Int) : Int :=
  let y := year - 1
  365 * y + y / 4 - y / 100 + y / 400

/-- The number of days of a year before a month. -/
def daysBeforeMonth (year : Int) (month : Nat) : Nat :=
  ((List.range (month - 1)).map fun m => daysInMonth year (m + 1)).sum

/-- The days from the first of January of the year one to that of 1970. -/
def epoch : Int := 719162

/-- The days since the first of January 1970. -/
def dayNumber (d : Date) : Int :=
  daysBeforeYear d.year + daysBeforeMonth d.year d.month + d.day - 1 - epoch

/-- The year of a day number: the last one that starts no later. A year is first estimated from the
mean length of a year and is off by at most one. -/
def yearOf (n : Int) : Int :=
  let days := n + epoch
  let estimate := 400 * days / 146097 + 1
  if days < daysBeforeYear estimate then estimate - 1
  else if daysBeforeYear (estimate + 1) ≤ days then estimate + 1
  else estimate

/-- The month and the day of the month of the day that follows `n` others in its year. -/
def monthAndDay (year : Int) (n : Nat) : Nat × Nat :=
  let month := ((List.range 12).takeWhile fun m => daysBeforeMonth year (m + 1) ≤ n).length
  (month, n - daysBeforeMonth year month + 1)

/-- The day of a day number, if it is in the calendar. -/
def ofDayNumber? (n : Int) : Option Date :=
  let year := yearOf n
  let (month, day) := monthAndDay year (n + epoch - daysBeforeYear year).toNat
  of? year month day

/-! ### Text -/

/-- Digits filled up with zeros in front. -/
def padded (width n : Nat) : List Char :=
  let ds := Binary64.digits n
  Binary64.zeros (width - ds.length) ++ ds

/-- A year of four digits; a year before zero or after 9999 has a sign. -/
def yearText (year : Int) : List Char :=
  if year < 0 then '-' :: padded 4 year.natAbs
  else if 9999 < year then '+' :: padded 4 year.natAbs
  else padded 4 year.natAbs

/-- Year, month and day with hyphens between them. -/
def text (d : Date) : List Char :=
  yearText d.year ++ '-' :: padded 2 d.month ++ '-' :: padded 2 d.day

/-- A number of at least one and at most `width` digits, and what is left. -/
def number? (width : Nat) (cs : List Char) : Option (Nat × List Char) :=
  let ds := (cs.take width).takeWhile Text.isDigit
  if ds.isEmpty then none else some (Text.numberOfDigits ds, cs.drop ds.length)

/-- A year: up to four digits, or any number of digits behind a sign. -/
def year? (cs : List Char) : Option (Int × List Char) :=
  match cs with
  | '-' :: cs => (number? cs.length cs).map fun (n, rest) => (-(n : Int), rest)
  | '+' :: cs => (number? cs.length cs).map fun (n, rest) => ((n : Int), rest)
  | cs => (number? 4 cs).map fun (n, rest) => ((n : Int), rest)

/-- A hyphen, and what is left. -/
def hyphen? : List Char → Option (List Char)
  | '-' :: rest => some rest
  | _ => none

/-- The day that a whole text names. Each of its three numbers may have blanks in front. -/
def ofText? (cs : List Char) : Option Date := do
  let (year, rest) ← year? (Text.trimStart cs)
  let (month, rest) ← number? 2 (Text.trimStart (← hyphen? rest))
  let (day, rest) ← number? 2 (Text.trimStart (← hyphen? rest))
  if rest.isEmpty then of? year month day else none

end Date

end ChatBot
