import Scaffold.Number.Digits
import Scaffold.Text.CodePoint
import Scaffold.Value.Basic

/-!
# Reading JSON

Values from JSON text, with the three words for special floating-point numbers and without limits on
repeated keys: the last value of a key counts. A fault tells what was expected and where. Texts are made
of characters, so that there is no value with a surrogate that stands alone in a text.
-/

namespace Scaffold.Json

/-! ## Faults -/

/-- What is wrong at a place in a text. -/
inductive Fault where
  | byteOrderMark
  | propertyName
  | colon
  | comma
  | value
  | unterminated
  | controlCharacter
  | escape
  | unicodeEscape
  | extraData
  deriving DecidableEq, Repr

/-- The text of a fault. -/
def Fault.message : Fault → String
  | .byteOrderMark => "Unexpected UTF-8 BOM (decode using utf-8-sig)"
  | .propertyName => "Expecting property name enclosed in double quotes"
  | .colon => "Expecting ':' delimiter"
  | .comma => "Expecting ',' delimiter"
  | .value => "Expecting value"
  | .unterminated => "Unterminated string starting at"
  | .controlCharacter => "Invalid control character at"
  | .escape => "Invalid \\escape"
  | .unicodeEscape => "Invalid \\uXXXX escape"
  | .extraData => "Extra data"

/-- Why a text is no JSON: a fault with the number of characters from its place to the end, a numeral
with too many digits, or a surrogate that stands alone. -/
inductive Stop where
  | fault (kind : Fault) (remaining : Nat)
  | digits (cause : TooManyDigits)
  | surrogate
  deriving DecidableEq, Repr

/-- Why a text is no JSON, with the place of the fault in the text. -/
inductive ReadFault where
  | fault (kind : Fault) (line column position : Nat)
  | digits (cause : TooManyDigits)
  | surrogate
  deriving DecidableEq, Repr

/-- The text of a fault with its place. -/
def ReadFault.message : ReadFault → String
  | .fault kind line column position =>
    kind.message ++ ": line " ++ toString line ++ " column " ++ toString column
      ++ " (char " ++ toString position ++ ")"
  | .digits cause => cause.message
  | .surrogate => "surrogates not allowed"

/-- Line and column after the given characters, both counted from one. -/
def lineColumn (before : List Char) : Nat × Nat :=
  (before.count '\n' + 1, (before.reverse.takeWhile (· != '\n')).length + 1)

/-- The place of a fault in a text of `size` characters; `before` gives what counts as characters
before a place. -/
def Stop.locate (size : Nat) (before : Nat → List Char) : Stop → ReadFault
  | .fault kind remaining =>
    let passed := before (size - remaining)
    let (line, column) := lineColumn passed
    .fault kind line column passed.length
  | .digits cause => .digits cause
  | .surrogate => .surrogate

/-- A value or another result, and the characters after it. -/
abbrev Read (α : Type) := Except Stop (α × List Char)

/-! ## Blanks -/

/-- The blanks that may stand between tokens. -/
def isSpace (c : Char) : Bool := c == ' ' || c == '\t' || c == '\n' || c == '\r'

/-- The characters after leading blanks. -/
def skipSpace (cs : List Char) : List Char := cs.dropWhile isSpace

/-! ## Texts -/

section

/- The character in the place of a surrogate that stands alone, if there is to be one. -/
variable (lone : Option Char)

/-- Four hexadecimal digits and the characters after them. -/
def fourHex? (cs : List Char) : Option (Nat × List Char) :=
  if (cs.take 4).length == 4 then (ofDigits? 16 (cs.take 4)).map fun n => (n, cs.drop 4) else none

/-- The character of a code unit by itself, in front of the given characters. -/
def loneUnit (n : Nat) (cs : List Char) : Read Char :=
  match (Text.codePointChar? n).orElse fun _ => lone with
  | some c => .ok (c, cs)
  | none => .error .surrogate

/-- The character of a `\u` escape whose first code unit has been read, and the characters after
it. A second escape that makes a pair with it has to be followed by a further character. -/
def unicodeEscape (first : Nat) (cs : List Char) : Read Char :=
  match cs with
  | '\\' :: 'u' :: rest =>
    if Text.isHighSurrogate first && !(cs.drop 6).isEmpty then
      match fourHex? rest with
      | none => .error (.fault .unicodeEscape (rest.length + 1))
      | some (second, after) =>
        if Text.isLowSurrogate second then .ok (Char.ofNat (Text.pairCodePoint first second), after)
        else loneUnit lone first cs
    else loneUnit lone first cs
  | _ => loneUnit lone first cs

/-- The character that a simple escape stands for. -/
def simpleEscape? : Char → Option Char
  | '"' => some '"'
  | '\\' => some '\\'
  | '/' => some '/'
  | 'b' => some '\x08'
  | 'f' => some '\x0c'
  | 'n' => some '\n'
  | 'r' => some '\r'
  | 't' => some '\t'
  | _ => none

/-- The rest of a text of which `opened` follows the opening quote; the characters read so far are in
`reversed`. The fuel bounds the number of characters. -/
def textFrom (opened : List Char) : Nat → List Char → List Char → Read String
  | 0, _, _ => .error (.fault .unterminated (opened.length + 1))
  | fuel + 1, reversed, cs =>
    match cs with
    | [] => .error (.fault .unterminated (opened.length + 1))
    | '"' :: rest => .ok (String.ofList reversed.reverse, rest)
    | '\\' :: 'u' :: rest =>
      if (rest.drop 4).isEmpty then .error (.fault .unicodeEscape (rest.length + 1))
      else
        match fourHex? rest with
        | none => .error (.fault .unicodeEscape (rest.length + 1))
        | some (first, after) =>
          match unicodeEscape lone first after with
          | .ok (c, after) => textFrom opened fuel (c :: reversed) after
          | .error e => .error e
    | ['\\'] => .error (.fault .unterminated (opened.length + 1))
    | '\\' :: c :: rest =>
      match simpleEscape? c with
      | some c => textFrom opened fuel (c :: reversed) rest
      | none => .error (.fault .escape (rest.length + 2))
    | c :: rest =>
      if c.toNat < 0x20 then .error (.fault .controlCharacter cs.length)
      else textFrom opened fuel (c :: reversed) rest

/-- A text after its opening quote. The fuel bounds the number of characters. -/
def text (fuel : Nat) (cs : List Char) : Read String := textFrom lone cs fuel [] cs

/-! ## Numbers and words -/

/-- The whole part of a numeral: zero, or digits that do not begin with zero. -/
def wholePart? (cs : List Char) : Option (List Char × List Char) :=
  match cs with
  | '0' :: rest => some (['0'], rest)
  | c :: _ =>
    if isDecimalDigit c then some (cs.takeWhile isDecimalDigit, cs.dropWhile isDecimalDigit)
    else none
  | [] => none

/-- The fraction of a numeral with its point, empty if there is none. -/
def fractionPart (cs : List Char) : List Char × List Char :=
  match cs with
  | '.' :: rest =>
    let digits := rest.takeWhile isDecimalDigit
    if digits.isEmpty then ([], cs) else ('.' :: digits, rest.dropWhile isDecimalDigit)
  | _ => ([], cs)

/-- The exponent of a numeral with its mark, empty if there is none. -/
def exponentPart (cs : List Char) : List Char × List Char :=
  match cs with
  | [] => ([], cs)
  | mark :: rest =>
    if mark == 'e' || mark == 'E' then
      let (sign, tail) := match rest with
        | '+' :: tail => (['+'], tail)
        | '-' :: tail => (['-'], tail)
        | tail => ([], tail)
      let digits := tail.takeWhile isDecimalDigit
      if digits.isEmpty then ([], cs)
      else (mark :: sign ++ digits, tail.dropWhile isDecimalDigit)
    else ([], cs)

/-- A number: a whole one, or a floating-point one if it has a fraction or an exponent. -/
def number (cs : List Char) : Read Value :=
  let (negative, rest) := match cs with
    | '-' :: rest => (true, rest)
    | rest => (false, rest)
  match wholePart? rest with
  | none => .error (.fault .value cs.length)
  | some (whole, rest) =>
    let (fraction, rest) := fractionPart rest
    let (exponent, rest) := exponentPart rest
    if fraction.isEmpty && exponent.isEmpty then
      if digitLimit < whole.length then .error (.digits ⟨whole.length⟩)
      else
        let n : Nat := (digitsFrom? 10 0 whole).getD 0
        .ok (.int (if negative then -(n : Int) else n), rest)
    else
      match Binary64.ofNumeral? ((if negative then ['-'] else []) ++ whole ++ fraction ++ exponent) with
      | some x => .ok (.float x, rest)
      | none => .error (.fault .value cs.length)

/-- The words that stand for values. -/
def words : List (String × Value) := [
  ("null", .null), ("true", .bool true), ("false", .bool false), ("NaN", .float .nan),
  ("Infinity", .float (.infinite false)), ("-Infinity", .float (.infinite true))]

/-- The characters after a word that a text begins with. -/
def afterWord? (word cs : List Char) : Option (List Char) :=
  if cs.take word.length == word then some (cs.drop word.length) else none

/-- A word or a number. -/
def scalar (cs : List Char) : Read Value :=
  match words.findSome? fun w => (afterWord? w.1.toList cs).map fun rest => (w.2, rest) with
  | some found => .ok found
  | none => number cs

/-! ## Values -/

mutual

/-- A value. The fuel bounds the number of steps; every step but the first one of a list or a mapping
passes a character. -/
def value : Nat → List Char → Read Value
  | 0, cs => .error (.fault .value cs.length)
  | fuel + 1, cs =>
    match cs with
    | [] => .error (.fault .value 0)
    | '"' :: rest => (text lone fuel rest).map fun (s, rest) => (.text s, rest)
    | '\x7b' :: rest =>
      match skipSpace rest with
      | '\x7d' :: rest => .ok (.map [], rest)
      | rest => (entries fuel rest).map fun (es, rest) => (.map (Value.mapping es), rest)
    | '[' :: rest =>
      match skipSpace rest with
      | ']' :: rest => .ok (.list [], rest)
      | rest => (items fuel rest).map fun (vs, rest) => (.list vs, rest)
    | _ => scalar cs

/-- The items of a list from the first one on, up to and with the closing bracket. -/
def items : Nat → List Char → Read (List Value)
  | 0, cs => .error (.fault .value cs.length)
  | fuel + 1, cs =>
    match value fuel cs with
    | .error e => .error e
    | .ok (v, rest) =>
      match skipSpace rest with
      | ']' :: rest => .ok ([v], rest)
      | ',' :: rest => (items fuel (skipSpace rest)).map fun (vs, rest) => (v :: vs, rest)
      | rest => .error (.fault .comma rest.length)

/-- The entries of a mapping from the first one on, up to and with the closing brace. -/
def entries : Nat → List Char → Read (List (Value × Value))
  | 0, cs => .error (.fault .value cs.length)
  | fuel + 1, cs =>
    match cs with
    | '"' :: rest =>
      match text lone fuel rest with
      | .error e => .error e
      | .ok (key, rest) =>
        match skipSpace rest with
        | ':' :: rest =>
          match value fuel (skipSpace rest) with
          | .error e => .error e
          | .ok (v, rest) =>
            match skipSpace rest with
            | '\x7d' :: rest => .ok ([(.text key, v)], rest)
            | ',' :: rest =>
              (entries fuel (skipSpace rest)).map fun (es, rest) =>
                ((.text key, v) :: es, rest)
            | rest => .error (.fault .comma rest.length)
        | rest => .error (.fault .colon rest.length)
    | _ => .error (.fault .propertyName cs.length)

end

/-- The value of a whole text: blanks, a value, blanks. -/
def documentWith (cs : List Char) : Except Stop Value :=
  match value lone (2 * cs.length + 2) (skipSpace cs) with
  | .error e => .error e
  | .ok (v, rest) =>
    let rest := skipSpace rest
    if rest.isEmpty then .ok v else .error (.fault .extraData rest.length)

end

/-- What stands for a surrogate that stands alone while other faults are looked for. -/
def replacement : Char := '\uFFFD'

/-- The value of a whole text. Any other fault comes before a surrogate that stands alone. -/
def document (cs : List Char) : Except Stop Value :=
  match documentWith none cs with
  | .error .surrogate =>
    match documentWith (some replacement) cs with
    | .error e => .error e
    | .ok _ => .error .surrogate
  | outcome => outcome

/-- The value that code points stand for as JSON. In the place of a fault, each of two surrogates that
make one character is counted. -/
def readCodePoints (points : List Nat) : Except ReadFault Value :=
  let cs := (Text.joinSurrogates points).map fun n => (Text.codePointChar? n).getD replacement
  let before (count : Nat) := (Text.codePointsOf count points).map Char.ofNat
  match (document cs).mapError (Stop.locate cs.length before) with
  | .error e => .error e
  | .ok v => if (Text.codePointChars? points).isSome then .ok v else .error .surrogate

/-- The value that a JSON text stands for. It may not begin with a byte-order mark. -/
def read (s : String) : Except ReadFault Value :=
  let cs := s.toList
  match cs with
  | '\uFEFF' :: _ => .error (.fault .byteOrderMark 1 1 0)
  | _ => (document cs).mapError (Stop.locate cs.length cs.take)

end Scaffold.Json
