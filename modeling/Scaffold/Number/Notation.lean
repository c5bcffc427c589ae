import Scaffold.Number.Shortest

/-!
# Number notation

How numbers are written and read: the layout of a floating-point number's digits as a record of
decisions, fixed places for durations, and decimal numerals as they stand in data files.
-/

namespace Scaffold

/-! ## Layout -/

/-- A whole number with zeros in front of it, up to at least the given width. -/
def zeroPadded (width n : Nat) : String :=
  let digits := toString n
  String.ofList (List.replicate (width - digits.length) '0') ++ digits

/-- The decisions of a floating-point notation. -/
structure Notation where
  /-- The least decimal exponent that is still written with leading zeros. -/
  positionalFrom : Int := -4
  /-- The first decimal exponent that is written with an exponent mark. -/
  exponentialFrom : Int := 16
  /-- The text of the number that is not one. -/
  nan : String
  /-- The text of positive infinity; a minus sign goes before it for the other one. -/
  infinity : String

namespace Notation

/-- The notation of shown values: `nan` and `inf`. -/
def shown : Notation where
  nan := "nan"
  infinity := "inf"

/-- The notation of data interchange: `NaN` and `Infinity`. -/
def interchange : Notation where
  nan := "NaN"
  infinity := "Infinity"

/-- A decimal exponent with its sign and at least two digits. -/
def exponentText (e : Int) : String :=
  (if e < 0 then "-" else "+") ++ zeroPadded 2 e.natAbs

/-- The layout of the digits of a positive number: positional with at least one digit after the
point, or one digit before the point and an exponent. -/
def layout (n : Notation) (d : Binary64.Digits) : String :=
  let text := toString d.digits
  let size : Int := text.length
  let top := size + d.exponent - 1
  if n.positionalFrom ≤ top && top < n.exponentialFrom then
    if 0 ≤ d.exponent then
      text ++ String.ofList (List.replicate d.exponent.toNat '0') ++ ".0"
    else if 0 ≤ top then
      let whole := (top + 1).toNat
      String.ofList (text.toList.take whole) ++ "." ++ String.ofList (text.toList.drop whole)
    else
      "0." ++ String.ofList (List.replicate (-top - 1).toNat '0') ++ text
  else
    let tail := String.ofList (text.toList.drop 1)
    String.ofList (text.toList.take 1) ++ (if tail.isEmpty then "" else "." ++ tail) ++ "e"
      ++ exponentText top

/-- A floating-point number with the fewest digits that identify it. -/
def write (n : Notation) : Binary64 → String
  | .nan => n.nan
  | .infinite negative => (if negative then "-" else "") ++ n.infinity
  | .finite negative m e =>
    (if negative then "-" else "") ++ (if m == 0 then "0.0" else n.layout (Binary64.shortest m e))

end Notation

/-! ## Fixed places -/

/-- The quotient `num / den` rounded to two places, ties to the even last digit. -/
def twoPlaces (num den : Nat) : String :=
  let hundredths := Binary64.roundHalfEven (num * 100) den
  toString (hundredths / 100) ++ "." ++ zeroPadded 2 (hundredths % 100)

/-! ## Numerals -/

/-- The value of a digit in a base of up to sixteen. -/
def digitValue? (base : Nat) (c : Char) : Option Nat :=
  let value :=
    if '0' ≤ c && c ≤ '9' then c.toNat - '0'.toNat
    else if 'a' ≤ c && c ≤ 'f' then c.toNat - 'a'.toNat + 10
    else if 'A' ≤ c && c ≤ 'F' then c.toNat - 'A'.toNat + 10
    else base
  if value < base then some value else none

/-- The number that digits stand for, read after the digits already worth `value`. -/
def digitsFrom? (base : Nat) (value : Nat) : List Char → Option Nat
  | [] => some value
  | c :: rest =>
    match digitValue? base c with
    | some d => digitsFrom? base (value * base + d) rest
    | none => none

/-- The number that a nonempty run of digits stands for. -/
def ofDigits? (base : Nat) (cs : List Char) : Option Nat :=
  if cs.isEmpty then none else digitsFrom? base 0 cs

/-- A decimal digit. -/
def isDecimalDigit (c : Char) : Bool := '0' ≤ c && c ≤ '9'

/-- A digit is none of the characters that are no digits. -/
theorem ne_of_isDecimalDigit {c d : Char} (hc : isDecimalDigit c = true) (hd : isDecimalDigit d = false) :
    c ≠ d := by
  rintro rfl
  rw [hc] at hd
  cases hd

/-- The sign in front of a numeral and what follows it. -/
def splitSign : List Char → Bool × List Char
  | '-' :: rest => (true, rest)
  | '+' :: rest => (false, rest)
  | cs => (false, cs)

/-- The exponent part of a numeral: nothing, or a mark, an optional sign and digits. -/
def exponentPart? : List Char → Option Int
  | [] => some 0
  | c :: rest =>
    if c == 'e' || c == 'E' then
      let (negative, digits) := splitSign rest
      (ofDigits? 10 digits).map fun n => if negative then -(n : Int) else n
    else none

/-- The number that a decimal numeral stands for: a sign, digits with at most one point among them
and at least one digit, and an exponent. -/
def Binary64.ofNumeral? (cs : List Char) : Option Binary64 :=
  let (negative, rest) := splitSign cs
  let whole := rest.takeWhile isDecimalDigit
  let afterWhole := rest.dropWhile isDecimalDigit
  let (fraction, tail) := match afterWhole with
    | '.' :: r => (r.takeWhile isDecimalDigit, r.dropWhile isDecimalDigit)
    | r => ([], r)
  match ofDigits? 10 (whole ++ fraction), exponentPart? tail with
  | some digits, some e => some (Binary64.ofDecimal negative digits (e - fraction.length))
  | _, _ => none

/-- The number that a text in the notation of shown values stands for. -/
def Binary64.ofText? (s : String) : Option Binary64 :=
  let (negative, rest) := splitSign s.toList
  if rest == "nan".toList then some .nan
  else if rest == "inf".toList then some (.infinite negative)
  else Binary64.ofNumeral? s.toList

end Scaffold
