import Scaffold.Number.Digits
import Scaffold.Text.Printable
import Scaffold.Value.Basic

/-!
# Displayed values

The text of a value in messages and generated code: a textual value as it is, everything else in the
notation of literals, where texts are quoted.
-/

namespace Scaffold

/-! ## Quoted text -/

namespace Quoted

/-- Small hexadecimal digits of a number, at least `width` of them. -/
def hex (width n : Nat) : String :=
  let digits := String.ofList (Nat.toDigits 16 n)
  String.ofList (List.replicate (width - digits.length) '0') ++ digits

/-- The quote that texts are put in: a double one where only single ones occur inside. -/
def quoteFor (cs : List Char) : Char :=
  if cs.contains '\'' && !cs.contains '"' then '"' else '\''

/-- The escape of a character without a visible form, by the size of its code point. -/
def escape (n : Nat) : String :=
  if n < 0x100 then "\\x" ++ hex 2 n
  else if n < 0x10000 then "\\u" ++ hex 4 n
  else "\\U" ++ hex 8 n

/-- A character inside quotes. -/
def char (quote c : Char) : String :=
  if c == quote || c == '\\' then "\\" ++ c.toString
  else if c == '\n' then "\\n"
  else if c == '\r' then "\\r"
  else if c == '\t' then "\\t"
  else if Text.isPrintable c then c.toString
  else escape c.toNat

/-- A text in quotes. -/
def text (s : String) : String :=
  let cs := s.toList
  let quote := quoteFor cs
  quote.toString ++ String.join (cs.map (char quote)) ++ quote.toString

/-- Bytes in quotes: characters outside visible ASCII are escaped. -/
def bytes (b : ByteArray) : String :=
  let cs := b.data.toList.map fun byte => Char.ofNat byte.toNat
  let quote := quoteFor cs
  let shown := cs.map fun c => if c.toNat < 0x80 then char quote c else escape c.toNat
  "b" ++ quote.toString ++ String.join shown ++ quote.toString

end Quoted

/-! ## Calendar literals -/

/-- Texts with a comma and a space between them. -/
def commaList (parts : List String) : String := ", ".intercalate parts

/-- A distance from universal time as a literal: days, seconds and microseconds where they are not
zero, the latter two never negative. -/
def Offset.literal (o : Offset) : String :=
  if o.microseconds == 0 then "datetime.timezone.utc"
  else
    let days := o.microseconds / dayMicroseconds
    let rest := (o.microseconds % dayMicroseconds).toNat
    let part (name : String) (n : Int) := if n == 0 then [] else [name ++ "=" ++ toString n]
    "datetime.timezone(datetime.timedelta("
      ++ commaList (part "days" days ++ part "seconds" (rest / 1000000 : Nat)
        ++ part "microseconds" (rest % 1000000 : Nat)) ++ "))"

/-- A day as a literal. -/
def Date.literal (d : Date) : String :=
  "datetime.date(" ++ commaList ([d.year, d.month, d.day].map toString) ++ ")"

/-- A moment as a literal. Microseconds are left out when there are none, and then also seconds. -/
def Moment.literal (m : Moment) : String :=
  let start := [m.date.year, m.date.month, m.date.day, m.time.hour, m.time.minute]
  let tail :=
    if m.time.microsecond != 0 then [m.time.second, m.time.microsecond]
    else if m.time.second != 0 then [m.time.second]
    else []
  let zone := match m.offset with
    | some o => ["tzinfo=" ++ o.literal]
    | none => []
  "datetime.datetime(" ++ commaList ((start ++ tail).map toString ++ zone) ++ ")"

/-! ## Values -/

namespace Value

/-- What is shown of a container inside of itself. -/
def shortForm : Value → String
  | list _ => "[...]"
  | tuple _ => "(...)"
  | map _ => "\x7b...\x7d"
  | _ => "..."

/-- The short forms of the knots around a place, by their labels. -/
abbrev Around := List (Nat × String)

mutual

/-- A value in the notation of literals, inside the given knots. -/
def literalIn (around : Around) : Value → String
  | null => "None"
  | bool b => if b then "True" else "False"
  | int n => toString n
  | float x => Notation.shown.write x
  | text s => Quoted.text s
  | list items => "[" ++ commaList (literalsIn around items) ++ "]"
  | tuple [item] => "(" ++ literalIn around item ++ ",)"
  | tuple items => "(" ++ commaList (literalsIn around items) ++ ")"
  | map entries => "\x7b" ++ commaList (entryLiteralsIn around entries) ++ "\x7d"
  | set [] => "set()"
  | set items => "\x7b" ++ commaList (literalsIn around items) ++ "\x7d"
  | date d => d.literal
  | moment m => m.literal
  | bytes b => Quoted.bytes b
  | knot label inside =>
    match around.lookup label with
    | some short => short
    | none => literalIn ((label, inside.shortForm) :: around) inside
  | again label => (around.lookup label).getD "None"

/-- The literals of a list of values. -/
def literalsIn (around : Around) : List Value → List String
  | [] => []
  | v :: rest => literalIn around v :: literalsIn around rest

/-- The literals of the entries of a mapping. -/
def entryLiteralsIn (around : Around) : List (Value × Value) → List String
  | [] => []
  | (k, v) :: rest =>
    (literalIn around k ++ ": " ++ literalIn around v) :: entryLiteralsIn around rest

end

/-- A value in the notation of literals. A container inside of itself has a short form. -/
def literal (v : Value) : String := literalIn [] v

/-- The text of a value: texts and calendar values as they are, everything else as a literal. -/
def display : Value → String
  | text s => s
  | date d => d.iso
  | moment m => m.iso " "
  | v => v.literal

/-! ## Limits -/

mutual

/-- A value without whole numbers of too many digits. -/
def isShown : Value → Bool
  | int n => n.natAbs < unwritableSize
  | list items | tuple items | set items => areShown items
  | map entries => entriesAreShown entries
  | knot _ inside => inside.isShown
  | _ => true

/-- Every value can be shown. -/
def areShown : List Value → Bool
  | [] => true
  | v :: rest => v.isShown && areShown rest

/-- Every key and every value can be shown. -/
def entriesAreShown : List (Value × Value) → Bool
  | [] => true
  | (k, v) :: rest => k.isShown && v.isShown && entriesAreShown rest

end

end Value

end Scaffold
