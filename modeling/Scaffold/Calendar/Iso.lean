import Scaffold.Calendar.Moment

/-!
# Reading moments

The extended and basic forms of dates and times: calendar dates and week dates, with or without
separators, a separator of any one character, a time to the hour, the minute, the second or a
fraction, and a distance from universal time. The end of the text counts as a null character, and a
null character where the text may end ends it.
-/

namespace Scaffold.Iso

/-! ## Digits -/

/-- The character in front, the null character at the end of the text. -/
def peek (cs : List Char) : Char := cs.headD '\x00'

/-- The number of exactly `count` digits in front, and what follows them. -/
def digits? : Nat → Nat → List Char → Option (Nat × List Char)
  | 0, value, cs => some (value, cs)
  | count + 1, value, c :: cs =>
    if isDecimalDigit c then digits? count (value * 10 + (c.toNat - '0'.toNat)) cs else none
  | _ + 1, _, [] => none

/-! ## Dates -/

/-- Where the date ends. A date without separators in front of a time without separators is told
apart by the number of digits. -/
def dateLength? (cs : List Char) : Option Nat :=
  let size := cs.length
  if size == 7 then some 7
  else if cs[4]? == some '-' then
    if cs[5]? == some 'W' then
      if size < 8 then none
      else if cs[8]? == some '-' then
        if size == 9 then none
        else if (cs[10]?.map isDecimalDigit).getD false then some 8
        else some 10
      else some 8
    else some 10
  else if cs[4]? == some 'W' then
    let stop := 7 + ((cs.drop 7).takeWhile isDecimalDigit).length
    if stop < 9 then some stop
    else if stop % 2 == 0 then some 7
    else some 8
  else some 8

/-- The day of a week date whose year and `W` have been read; `size` characters belong to the date
and `read` of them have been used. -/
def weekDate? (separated : Bool) (year size read : Nat) (cs : List Char) : Option Date :=
  match digits? 2 0 cs with
  | none => none
  | some (week, cs) =>
    if read + 2 < size then
      let cs := if separated then (if peek cs == '-' then some (cs.drop 1) else none) else some cs
      match cs.bind (digits? 1 0) with
      | some (weekday, _) => Date.ofWeek? year week weekday
      | none => none
    else Date.ofWeek? year week 1

/-- The day that the first `size` characters name. -/
def date? (size : Nat) (cs : List Char) : Option Date :=
  match digits? 4 0 cs with
  | none => none
  | some (year, cs) =>
    let separated := peek cs == '-'
    let cs := if separated then cs.drop 1 else cs
    if peek cs == 'W' then
      weekDate? separated year size (if separated then 6 else 5) (cs.drop 1)
    else
      match digits? 2 0 cs with
      | none => none
      | some (month, cs) =>
        let cs := if separated then (if peek cs == '-' then some (cs.drop 1) else none) else some cs
        match cs.bind (digits? 2 0) with
        | some (day, _) => Date.of? year month day
        | none => none

/-! ## Clock readings -/

/-- Hour, minute, second and microsecond as read, not yet checked against their ranges. -/
structure Clock where
  fields : List Nat
  microsecond : Nat := 0

namespace Clock

/-- The field at a place, zero if it was left out. -/
def field (c : Clock) (i : Nat) : Nat := c.fields.getD i 0

/-- The whole reading in microseconds. -/
def microseconds (c : Clock) : Nat :=
  ((c.field 0 * 60 + c.field 1) * 60 + c.field 2) * 1000000 + c.microsecond

end Clock

/-- A fraction of a second of `size` characters: up to six digits count, more are passed over. The
flag tells whether text is left. -/
def fraction? (fields : List Nat) (size : Nat) (cs : List Char) : Option (Clock × Bool) :=
  let count := min size 6
  match digits? count 0 cs with
  | none => none
  | some (value, cs) =>
    let micros := value * Nat.pow 10 (6 - count)
    some (⟨fields, micros⟩, peek (cs.dropWhile isDecimalDigit) != '\x00')

/-- Reads at most `count` more fields of two digits, then a fraction. The reading is `size`
characters long; `separated` tells whether colons stand between the fields and is settled after the
first one. The flag tells whether text is left, which can be one character outside the reading's
form, an ASCII one. -/
def clock? (separated : Option Bool) (fields : List Nat) :
    Nat → Nat → List Char → Option (Clock × Bool)
  | 0, size, cs => fraction? fields size cs
  | count + 1, size, cs =>
    match digits? 2 0 cs with
    | none => none
    | some (value, cs) =>
      let fields := fields ++ [value]
      let next := peek cs
      let colons := separated.getD (next == ':')
      if size ≤ 3 then
        if next.toNat < 0x80 then some (⟨fields, 0⟩, next != '\x00') else none
      else if colons && next == ':' then
        clock? (some colons) fields count (size - 3) (cs.drop 1)
      else if next == '.' || next == ',' then fraction? fields (size - 3) (cs.drop 1)
      else if !colons then clock? (some colons) fields count (size - 2) cs
      else none

/-! ## Times -/

/-- The start of a distance from universal time. -/
def startsOffset (c : Char) : Bool := c == '+' || c == '-' || c == 'Z'

/-- The distance that a text from its sign on stands for. -/
def offset? (cs : List Char) : Option Offset :=
  if peek cs == 'Z' then
    if peek (cs.drop 1) == '\x00' then some Offset.utc else none
  else
    match clock? none [] 3 (cs.length - 1) (cs.drop 1) with
    | some (c, false) =>
      Offset.of? (if peek cs == '-' then -(c.microseconds : Int) else c.microseconds)
    | _ => none

/-- The time of day and the distance that a text stands for. Text that is left over after the
clock reading is allowed only in front of a distance. -/
def time? (cs : List Char) : Option (TimeOfDay × Option Offset) :=
  let size := (cs.takeWhile fun c => !startsOffset c).length
  match clock? none [] 3 size cs with
  | none => none
  | some (c, left) =>
    let zone := cs.drop size
    match TimeOfDay.of? (c.field 0) (c.field 1) (c.field 2) c.microsecond with
    | none => none
    | some t =>
      if zone.isEmpty then (if left then none else some (t, none))
      else (offset? zone).map fun o => (t, some o)

/-! ## Moments -/

/-- The moment that a text stands for: a date, and if more text follows, one separating character
and a time. -/
def moment? (s : String) : Option Moment :=
  let cs := s.toList
  if cs.length < 7 then none
  else
    match dateLength? cs with
    | none => none
    | some size =>
      match date? size cs, TimeOfDay.of? 0 0 0 0 with
      | some d, some midnight =>
        if cs.length ≤ size then some ⟨d, midnight, none⟩
        else (time? (cs.drop (size + 1))).map fun (t, o) => ⟨d, t, o⟩
      | _, _ => none

/-- The day that a text in the extended form stands for. -/
def day? (s : String) : Option Date :=
  if s.length == 10 then date? 10 s.toList else none

end Scaffold.Iso
