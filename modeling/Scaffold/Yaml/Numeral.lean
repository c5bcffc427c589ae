import Scaffold.Number.Digits
import Scaffold.Text.Case
import Scaffold.Text.DecimalDigit
import Scaffold.Text.Parts
import Scaffold.Value.Display
import Scaffold.Yaml.Tag

/-!
# Numbers in YAML

The numbers that scalars stand for. Whole numbers may be binary, octal, decimal or hexadecimal, both
kinds of numbers may be in base sixty, and underscores between the digits have no meaning. The parts
of a numeral may have blanks around them and digits of any script.
-/

namespace Scaffold.Yaml

/-! ## Characters of numerals -/

/-- A blank that may stand around a numeral. -/
def isPadding (c : Char) : Bool := c == ' ' || ('\t' ≤ c && c ≤ '\r')

/-- The ASCII characters that a text with characters beyond ASCII is read as: spaces for blanks and
digits for digits of other scripts. Any other character ends it with one that is in no numeral. -/
def foldedNumeral : List Char → List Char
  | [] => []
  | c :: rest =>
    if c.toNat < 0x7F then c :: foldedNumeral rest
    else if Text.isBlank c then ' ' :: foldedNumeral rest
    else
      match Text.decimalValue? c with
      | some d => Char.ofNat ('0'.toNat + d) :: foldedNumeral rest
      | none => ['?']

/-- The ASCII characters that a text is read as. -/
def asciiNumeral (cs : List Char) : List Char :=
  if cs.all (·.toNat < 0x80) then cs else foldedNumeral cs

/-- A numeral without the blanks around it. -/
def unpadded (cs : List Char) : List Char :=
  ((cs.dropWhile isPadding).reverse.dropWhile isPadding).reverse

/-- A text without the underscores that group its digits. -/
def withoutGaps (s : String) : List Char := s.toList.filter (· != '_')

/-! ## Whole numbers -/

/-- The greatest number of characters of a numeral that a message quotes. -/
def quotedLimit : Nat := 200

/-- A fault of a text that is no numeral of a base. -/
def notWhole (base : Nat) (cs : List Char) : Fault :=
  let quoted := (Quoted.text (String.ofList cs)).toList.take quotedLimit
  .scalar ("invalid literal for int() with base " ++ toString base ++ ": " ++ String.ofList quoted)

/-- The characters after the mark of a base: a zero and a letter. -/
def afterMark (mark : Option Char) (cs : List Char) : List Char :=
  match cs, mark with
  | '0' :: c :: rest, some m => if Text.lowerAscii c == m then rest else cs
  | _, _ => cs

/-- The whole number that a numeral in a base stands for: blanks around it, a sign and a mark for
the base are allowed. Decimal digits are counted before anything after them is looked at. -/
def wholeNumber (mark : Option Char) (base : Nat) (cs : List Char) : Except Fault Int :=
  let (negative, unsigned) := splitSign ((asciiNumeral cs).dropWhile isPadding)
  let numeral := afterMark mark unsigned
  let digits := numeral.takeWhile fun c => (digitValue? base c).isSome
  if base == 10 && digitLimit < digits.length then
    .error (.scalar (TooManyDigits.message ⟨digits.length⟩))
  else
    match ofDigits? base digits with
    | some n =>
      if (numeral.drop digits.length).all isPadding then .ok (if negative then -(n : Int) else n)
      else .error (notWhole base cs)
    | none => .error (notWhole base cs)

/-- A whole number in any of its forms. -/
def wholeScalar (text : String) : Except Fault Int :=
  let cs := withoutGaps text
  match cs with
  | [] => .error .emptyNumeral
  | first :: _ =>
    let unsigned := afterSign cs
    let result : Except Fault Int := match unsigned with
      | [] => .error .emptyNumeral
      | ['0'] => .ok 0
      | '0' :: 'b' :: rest => wholeNumber (some 'b') 2 rest
      | '0' :: 'x' :: rest => wholeNumber (some 'x') 16 rest
      | '0' :: _ => wholeNumber (some 'o') 8 unsigned
      | _ =>
        if unsigned.contains ':' then
          ((Text.partsBetween ':' unsigned).mapM (wholeNumber none 10)).map fun parts =>
            parts.foldl (fun total part => total * 60 + part) 0
        else wholeNumber none 10 unsigned
    result.map fun n => if first == '-' then -n else n

/-! ## Floating-point numbers -/

/-- The floating-point number that a numeral stands for: blanks around it and the words for the
special numbers are allowed. -/
def floatNumber (cs : List Char) : Except Fault Binary64 :=
  let numeral := unpadded (asciiNumeral cs)
  let (negative, unsigned) := splitSign numeral
  if unsigned == "inf".toList || unsigned == "infinity".toList then .ok (.infinite negative)
  else if unsigned == "nan".toList then .ok .nan
  else
    match Binary64.ofNumeral? numeral with
    | some x => .ok x
    | none =>
      .error (.scalar ("could not convert string to float: " ++ Quoted.text (String.ofList cs)))

/-- The number with the other sign. -/
def negate : Binary64 → Binary64
  | .nan => .nan
  | .infinite negative => .infinite (!negative)
  | .finite negative m e => .finite (!negative) m e

/-- The sum of a total and parts, the first part counted in units of `unit` and each further one in
units sixty times as large. The units have to be numbers themselves. -/
def sumSixties (total : Binary64) (unit : Int) : List Binary64 → Except Fault Binary64
  | [] => .ok total
  | part :: rest =>
    match Binary64.ofInt unit with
    | .infinite _ => .error .unitTooLarge
    | x => sumSixties (total.add (part.mul x)) (unit * 60) rest

/-- A floating-point numeral in small letters without underscores. -/
def floatChars (text : String) : List Char := (Text.lower (String.ofList (withoutGaps text))).toList

/-- The word for what is not a number, with or without a sign. -/
def isNotNumberWord (text : String) : Bool := afterSign (floatChars text) == ".nan".toList

/-- A floating-point number in any of its forms. -/
def floatScalar (text : String) : Except Fault Binary64 :=
  let cs := floatChars text
  match cs with
  | [] => .error .emptyNumeral
  | first :: _ =>
    let unsigned := afterSign cs
    let result : Except Fault Binary64 :=
      if unsigned == ".inf".toList then .ok (.infinite false)
      else if unsigned == ".nan".toList then .ok .nan
      else if unsigned.contains ':' then
        match (Text.partsBetween ':' unsigned).mapM floatNumber with
        | .ok parts => sumSixties (Binary64.zero false) 1 parts.reverse
        | .error e => .error e
      else floatNumber unsigned
    result.map fun x => if first == '-' then negate x else x

end Scaffold.Yaml
