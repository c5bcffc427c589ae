import Scaffold.Yaml.Numeral

/-!
# Values of YAML scalars

What the text of a scalar stands for under its tag: null, truth values, numbers, times, bytes and
texts.
-/

namespace Scaffold.Yaml

/-! ## Times -/

/-- Up to six digits of a fraction as microseconds. -/
def microseconds (digits : List Char) : Nat :=
  let kept := digits.take 6
  (digitsFrom? 10 0 kept).getD 0 * Nat.pow 10 (6 - kept.length)

/-- Days, seconds and microseconds of a distance as a literal of their sum. -/
def distanceLiteral (micros : Int) : String :=
  let days := micros / dayMicroseconds
  let seconds := (micros % dayMicroseconds).toNat / 1000000
  let part (name : String) (n : Int) := if n == 0 then [] else [name ++ "=" ++ toString n]
  "datetime.timedelta(" ++ commaList (part "days" days ++ part "seconds" seconds) ++ ")"

/-- The distance from universal time that a time gives. -/
def zoneOffset : Option (Bool × Nat × Nat) → Except Fault Offset
  | none => .ok Offset.utc
  | some (negative, hour, minute) =>
    let size : Int := (hour * 60 + minute : Nat) * 60000000
    let micros := if negative then -size else size
    match Offset.of? micros with
    | some o => .ok o
    | none =>
      .error (.scalar ("offset must be a timedelta strictly between -timedelta(hours=24) and "
        ++ "timedelta(hours=24), not " ++ distanceLiteral micros ++ "."))

/-- A day, or a moment if there is a clock reading. A line feed at the end makes no difference. -/
def timeScalar (text : String) : Except Fault Value :=
  match rawTime? (withoutLastBreak text.toList) with
  | none => .error .timeShape
  | some t =>
    let date := (Date.ofParts t.year t.month t.day).mapError fun f => Fault.scalar f.message
    match t.clock with
    | none => date.map .date
    | some (hour, minute, second, fraction) => do
      let offset ← match t.zone with
        | none => pure none
        | some zone => (zoneOffset zone).map some
      let day ← date
      let time ← (TimeOfDay.ofParts hour minute second (microseconds fraction)).mapError
        fun f => Fault.scalar f.message
      return .moment ⟨day, time, offset⟩

/-! ## Bytes -/

/-- The value of a digit of the base-64 notation. -/
def base64Digit? (c : Char) : Option Nat :=
  if 'A' ≤ c && c ≤ 'Z' then some (c.toNat - 'A'.toNat)
  else if 'a' ≤ c && c ≤ 'z' then some (c.toNat - 'a'.toNat + 26)
  else if '0' ≤ c && c ≤ '9' then some (c.toNat - '0'.toNat + 52)
  else if c == '+' then some 62
  else if c == '/' then some 63
  else none

/-- The bytes that base-64 digits stand for, `place` digits of the current group having been read
with `left` bits left over and `pads` padding signs since. Other characters are passed over; the
group has to be complete or padded. -/
def base64From (place left pads : Nat) : List Char → Except Fault (List UInt8)
  | [] => if place == 0 then .ok [] else .error .malformed
  | c :: rest =>
    if c == '=' then
      if 2 ≤ place && 4 ≤ place + pads + 1 then .ok []
      else base64From place left (if 2 ≤ place then pads + 1 else pads) rest
    else
      match base64Digit? c with
      | none => base64From place left pads rest
      | some d =>
        match place with
        | 0 => base64From 1 d 0 rest
        | 1 => (base64From 2 (d % 16) 0 rest).map ((left * 4 + d / 16).toUInt8 :: ·)
        | 2 => (base64From 3 (d % 4) 0 rest).map ((left * 16 + d / 4).toUInt8 :: ·)
        | _ => (base64From 0 0 0 rest).map ((left * 64 + d).toUInt8 :: ·)

/-- The bytes of a scalar in base-64 notation. -/
def bytesScalar (text : String) : Except Fault ByteArray :=
  if text.toList.all (·.toNat < 0x80) then
    (base64From 0 0 0 text.toList).map fun bytes => ⟨bytes.toArray⟩
  else .error .malformed

/-! ## Scalars -/

/-- The tags of scalars. -/
def scalarTags : List String :=
  ["null", "bool", "int", "float", "binary", "timestamp", "str"].map coreTag

/-- The value that a text stands for under a scalar tag. -/
def scalarValue (tag text : String) : Except Fault Value :=
  if tag == coreTag "null" then .ok .null
  else if tag == coreTag "bool" then
    match truthWords.lookup (Text.lower text) with
    | some b => .ok (.bool b)
    | none => .error .truthWord
  else if tag == coreTag "int" then (wholeScalar text).map .int
  else if tag == coreTag "float" then (floatScalar text).map .float
  else if tag == coreTag "binary" then (bytesScalar text).map .bytes
  else if tag == coreTag "timestamp" then timeScalar text
  else .ok (.text text)

end Scaffold.Yaml
