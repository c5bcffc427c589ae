import Scaffold.Number.Notation

/-!
# Dates

Days of the Gregorian calendar from year 1 to year 9999, counted and named in the ways that data
files use: year, month and day, the number of days since the start of year 1, and week dates.
-/

namespace Scaffold

/-! ## The calendar -/

namespace Calendar

/-- A leap year: every fourth one, of the centuries only every fourth. -/
def isLeap (year : Nat) : Bool :=
  year % 4 == 0 && (year % 100 != 0 || year % 400 == 0)

/-- The number of days in a month; zero for a month that does not exist. -/
def daysInMonth (year month : Nat) : Nat :=
  match month with
  | 1 | 3 | 5 | 7 | 8 | 10 | 12 => 31
  | 4 | 6 | 9 | 11 => 30
  | 2 => if isLeap year then 29 else 28
  | _ => 0

/-- The number of days before the first day of a year. -/
def daysBeforeYear (year : Nat) : Nat :=
  let y := year - 1
  y * 365 + y / 4 - y / 100 + y / 400

/-- The number of days of a year before the first day of a month. -/
def daysBeforeMonth (year month : Nat) : Nat :=
  ((List.range (month - 1)).map fun m => daysInMonth year (m + 1)).foldl (· + ·) 0

/-- The first year. -/
def firstYear : Nat := 1

/-- The last year. -/
def lastYear : Nat := 9999

/-- Year, month and day name a day of the calendar. -/
def isDay (year month day : Nat) : Bool :=
  firstYear ≤ year && year ≤ lastYear && 1 ≤ day && day ≤ daysInMonth year month

end Calendar

/-- A day of the calendar. -/
structure Date where
  year : Nat
  month : Nat
  day : Nat
  exists_day : Calendar.isDay year month day = true
  deriving DecidableEq, Repr

namespace Date

open Calendar

/-! ## Naming a day -/

/-- The day with the given year, month and day of the month. -/
def of? (year month day : Nat) : Option Date :=
  if h : isDay year month day then some ⟨year, month, day, h⟩ else none

/-- What is wrong with a year, a month or a day of the month. The year is looked at first, then the
month. -/
inductive Fault where
  | year (given : Nat)
  | month
  | day
  deriving DecidableEq, Repr

/-- The text of a fault. -/
def Fault.message : Fault → String
  | .year given => "year " ++ toString given ++ " is out of range"
  | .month => "month must be in 1..12"
  | .day => "day is out of range for month"

/-- The day with the given year, month and day of the month, or the first fault. -/
def ofParts (year month day : Nat) : Except Fault Date :=
  match of? year month day with
  | some d => .ok d
  | none =>
    if year < firstYear || lastYear < year then .error (.year year)
    else if month < 1 || 12 < month then .error .month
    else .error .day

/-! ## Counting days -/

/-- The number of a day, where the first day of year 1 has number 1. -/
def ordinal (d : Date) : Nat :=
  daysBeforeYear d.year + daysBeforeMonth d.year d.month + d.day

/-- The month and day of the `n`-th day after the first of a month, looking at most `fuel` months
ahead. -/
def monthOf (year : Nat) : Nat → Nat → Nat → Nat × Nat
  | 0, month, n => (month, n + 1)
  | fuel + 1, month, n =>
    if n < daysInMonth year month then (month, n + 1)
    else monthOf year fuel (month + 1) (n - daysInMonth year month)

/-- The day with a number. Whole cycles of 400, 100, 4 and 1 years are taken off in turn; the last
day of a cycle of 400 or 4 years belongs to its last year. -/
def ofOrdinal? (n : Nat) : Option Date :=
  if n == 0 then none
  else
    let n := n - 1
    let c400 := n / 146097
    let n := n % 146097
    let c100 := min (n / 36524) 3
    let n := n - c100 * 36524
    let c4 := n / 1461
    let n := n % 1461
    let c1 := min (n / 365) 3
    let n := n - c1 * 365
    let year := 400 * c400 + 100 * c100 + 4 * c4 + c1 + 1
    let (month, day) := monthOf year 12 1 n
    of? year month day

/-! ## Weeks -/

/-- The day of the week of a day by its number: zero for Monday, six for Sunday. -/
def weekdayOf (ordinal : Nat) : Nat := (ordinal + 6) % 7

/-- A year of 53 weeks: it starts on a Thursday, or on a Wednesday and is a leap year. -/
def isLongYear (year : Nat) : Bool :=
  let first := weekdayOf (daysBeforeYear year + 1)
  first == 3 || (first == 2 && isLeap year)

/-- The number of the Monday that starts the first week of a year, the week of its first
Thursday. -/
def firstMonday (year : Nat) : Nat :=
  let first := daysBeforeYear year + 1
  let weekday := weekdayOf first
  if 3 < weekday then first - weekday + 7 else first - weekday

/-- The day with the given year, week of the year and day of the week, where Monday has
number 1. -/
def ofWeek? (year week weekday : Nat) : Option Date :=
  if year < firstYear || lastYear < year then none
  else if week < 1 || 53 < week || (week == 53 && !isLongYear year) then none
  else if weekday < 1 || 7 < weekday then none
  else ofOrdinal? (firstMonday year + (week - 1) * 7 + (weekday - 1))

/-! ## Text -/

/-- A day as `year-month-day` with four, two and two digits. -/
def iso (d : Date) : String :=
  zeroPadded 4 d.year ++ "-" ++ zeroPadded 2 d.month ++ "-" ++ zeroPadded 2 d.day

/-- A day as the date part of a date-time input: the year has no leading zeros. -/
def inputText (d : Date) : String :=
  toString d.year ++ "-" ++ zeroPadded 2 d.month ++ "-" ++ zeroPadded 2 d.day

end Date

end Scaffold
