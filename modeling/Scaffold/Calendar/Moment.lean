import Scaffold.Calendar.Date

/-!
# Moments

A date with a time of day and, where it is known, the distance from universal time. Two moments
with a distance are the same when they name the same instant.
-/

namespace Scaffold

/-! ## Times of day and distances -/

/-- A time of day, to the microsecond. -/
structure TimeOfDay where
  hour : Nat
  minute : Nat
  second : Nat
  microsecond : Nat
  in_day : (hour < 24 && minute < 60 && second < 60 && microsecond < 1000000) = true
  deriving DecidableEq, Repr

namespace TimeOfDay

/-- What is wrong with a time of day. The hour is looked at first. -/
inductive Fault where
  | hour
  | minute
  | second
  | microsecond
  deriving DecidableEq, Repr

/-- The text of a fault. -/
def Fault.message : Fault → String
  | .hour => "hour must be in 0..23"
  | .minute => "minute must be in 0..59"
  | .second => "second must be in 0..59"
  | .microsecond => "microsecond must be in 0..999999"

/-- The time of day with the given parts. -/
def of? (hour minute second microsecond : Nat) : Option TimeOfDay :=
  if h : (hour < 24 && minute < 60 && second < 60 && microsecond < 1000000) = true then
    some ⟨hour, minute, second, microsecond, h⟩
  else none

/-- The time of day with the given parts, or the first fault. -/
def ofParts (hour minute second microsecond : Nat) : Except Fault TimeOfDay :=
  match of? hour minute second microsecond with
  | some t => .ok t
  | none =>
    if 24 ≤ hour then .error .hour
    else if 60 ≤ minute then .error .minute
    else if 60 ≤ second then .error .second
    else .error .microsecond

/-- The number of microseconds since midnight. -/
def microseconds (t : TimeOfDay) : Nat :=
  ((t.hour * 60 + t.minute) * 60 + t.second) * 1000000 + t.microsecond

/-- Two digits each for hour, minute and second, and six for the microsecond if there is one. -/
def iso (t : TimeOfDay) : String :=
  zeroPadded 2 t.hour ++ ":" ++ zeroPadded 2 t.minute ++ ":" ++ zeroPadded 2 t.second
    ++ (if t.microsecond == 0 then "" else "." ++ zeroPadded 6 t.microsecond)

end TimeOfDay

/-- The number of microseconds in a day. -/
def dayMicroseconds : Nat := 86400000000

/-- A distance from universal time, in microseconds: less than a day, positive to the east. -/
structure Offset where
  microseconds : Int
  within_day : microseconds.natAbs < dayMicroseconds
  deriving DecidableEq, Repr

namespace Offset

/-- The distance of the given number of microseconds. -/
def of? (microseconds : Int) : Option Offset :=
  if h : microseconds.natAbs < dayMicroseconds then some ⟨microseconds, h⟩ else none

/-- No distance at all. -/
def utc : Offset := ⟨0, by decide⟩

/-- A sign, hours and minutes, then seconds and microseconds where there are any. -/
def iso (o : Offset) : String :=
  let micros := o.microseconds.natAbs
  let seconds := micros / 1000000
  let rest := micros % 1000000
  (if o.microseconds < 0 then "-" else "+") ++ zeroPadded 2 (seconds / 3600) ++ ":"
    ++ zeroPadded 2 (seconds / 60 % 60)
    ++ (if seconds % 60 == 0 && rest == 0 then "" else ":" ++ zeroPadded 2 (seconds % 60))
    ++ (if rest == 0 then "" else "." ++ zeroPadded 6 rest)

end Offset

/-! ## Moments -/

/-- A date and a time of day, with the distance from universal time where it is known. -/
structure Moment where
  date : Date
  time : TimeOfDay
  offset : Option Offset
  deriving DecidableEq, Repr

namespace Moment

/-- The instant in universal time, in microseconds. -/
def instant (m : Moment) (o : Offset) : Int :=
  ((m.date.ordinal * dayMicroseconds + m.time.microseconds : Nat) : Int) - o.microseconds

/-- The same moment: the same instant when both distances are known, the same date and time when
neither is. -/
def same (a b : Moment) : Bool :=
  match a.offset, b.offset with
  | some o, some p => a.instant o == b.instant p
  | none, none => a.date == b.date && a.time == b.time
  | _, _ => false

/-- Date, separator, time and distance. -/
def iso (separator : String) (m : Moment) : String :=
  m.date.iso ++ separator ++ m.time.iso ++ (match m.offset with
    | some o => o.iso
    | none => "")

/-- A moment as the value of a date-time input: to the minute, without a distance. -/
def inputText (m : Moment) : String :=
  m.date.inputText ++ "T" ++ zeroPadded 2 m.time.hour ++ ":" ++ zeroPadded 2 m.time.minute

end Moment

/-- A day as the value of a date-time input: its midnight. -/
def Date.inputMoment (d : Date) : String := d.inputText ++ "T00:00"

end Scaffold
