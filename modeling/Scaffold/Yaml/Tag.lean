import Scaffold.Yaml.Cursor

/-!
# YAML tags

Which tag a plain scalar without one has: the words for null and truth values, the numerals, the
times, and two signs with a meaning as keys. Everything else is text.
-/

namespace Scaffold.Yaml

/-! ## Names of tags -/

/-- The common beginning of the tags of the notation. -/
def coreTag (name : String) : String := "tag:yaml.org,2002:" ++ name

/-- The tag of texts. -/
def textTag : String := coreTag "str"

/-- The tag of lists. -/
def sequenceTag : String := coreTag "seq"

/-- The tag of mappings. -/
def mappingTag : String := coreTag "map"

/-- The tag of the key that merges other mappings into its own. -/
def mergeTag : String := coreTag "merge"

/-- The tag of the key that stands for a mapping's own value. -/
def valueTag : String := coreTag "value"

/-! ## Words -/

/-- A word in small letters, with a capital at the start, and in capitals. -/
def spellings (word : String) : List (List Char) :=
  let upper := fun c : Char => if 'a' ≤ c && c ≤ 'z' then Char.ofNat (c.toNat - 32) else c
  let cs := word.toList
  [cs, (cs.take 1).map upper ++ cs.drop 1, cs.map upper]

/-- The words for the truth values. -/
def truthWords : List (String × Bool) := [
  ("yes", true), ("no", false), ("true", true), ("false", false), ("on", true), ("off", false)]

/-- A word for a truth value. -/
def isTruthWord (cs : List Char) : Bool :=
  truthWords.any fun w => (spellings w.1).contains cs

/-- A word for null, or nothing at all. -/
def isNullWord (cs : List Char) : Bool :=
  cs.isEmpty || cs == ['~'] || (spellings "null").contains cs

/-! ## Numerals -/

/-- The characters after a sign, if there is one. -/
def afterSign : List Char → List Char
  | '+' :: rest => rest
  | '-' :: rest => rest
  | cs => cs

/-- A digit of a base, or an underscore. -/
def isDigitOrGap (base : Nat) (c : Char) : Bool := c == '_' || (digitValue? base c).isSome

/-- A nonempty run of digits of a base and underscores. -/
def isDigits (base : Nat) (cs : List Char) : Bool := !cs.isEmpty && cs.all (isDigitOrGap base)

/-- Parts of two digits below sixty, each after a colon; at least one. -/
def isSixties : List Char → Bool
  | [':', d] => isDecimalDigit d
  | [':', t, d] => '0' ≤ t && t ≤ '5' && isDecimalDigit d
  | ':' :: t :: ':' :: rest => isDecimalDigit t && isSixties (':' :: rest)
  | ':' :: t :: d :: ':' :: rest =>
    '0' ≤ t && t ≤ '5' && isDecimalDigit d && isSixties (':' :: rest)
  | _ => false

/-- A numeral of a whole number: binary, octal, decimal, hexadecimal or in base sixty. -/
def isWholeNumeral (cs : List Char) : Bool :=
  match afterSign cs with
  | '0' :: 'b' :: rest => isDigits 2 rest
  | '0' :: 'x' :: rest => isDigits 16 rest
  | ['0'] => true
  | '0' :: rest => isDigits 8 rest
  | c :: rest =>
    let tail := rest.dropWhile (isDigitOrGap 10)
    isDecimalDigit c && (tail.isEmpty || isSixties tail)
  | [] => false

/-- An exponent with a sign and digits, or nothing. -/
def isSignedExponent : List Char → Bool
  | [] => true
  | mark :: sign :: digits =>
    (mark == 'e' || mark == 'E') && (sign == '+' || sign == '-') && !digits.isEmpty
      && digits.all isDecimalDigit
  | _ => false

/-- A numeral of a floating-point number. It has a point, or it is a word after one. -/
def isFloatNumeral (cs : List Char) : Bool :=
  let unsigned := afterSign cs
  let isWord := match unsigned with
    | '.' :: word => ["inf", "Inf", "INF"].any (·.toList == word)
    | _ => false
  let isNotNumber := [".nan", ".NaN", ".NAN"].any (·.toList == cs)
  let isFraction := match cs with
    | '.' :: d :: rest => isDecimalDigit d && isSignedExponent (rest.dropWhile (isDigitOrGap 10))
    | _ => false
  let isDecimal := match unsigned with
    | d :: rest =>
      isDecimalDigit d &&
        (match rest.dropWhile (isDigitOrGap 10) with
        | '.' :: tail => isSignedExponent (tail.dropWhile (isDigitOrGap 10))
        | ':' :: tail =>
          let sixties := tail.takeWhile (· != '.')
          match tail.drop sixties.length with
          | '.' :: fraction => isSixties (':' :: sixties) && fraction.all (isDigitOrGap 10)
          | _ => false
        | _ => false)
    | [] => false
  isWord || isNotNumber || isFraction || isDecimal

/-! ## Times -/

/-- The parts of a time as written: year, month and day, and where given hour, minute and second
with the digits of the fraction, and the distance from universal time. -/
structure RawTime where
  year : Nat
  month : Nat
  day : Nat
  clock : Option (Nat × Nat × Nat × List Char)
  /-- Universal time, or a distance with a sign, hours and minutes. -/
  zone : Option (Option (Bool × Nat × Nat))

/-- One or two digits in front, and what follows them. -/
def shortNumber? (cs : List Char) : Option (Nat × List Char) :=
  let digits := (cs.take 2).takeWhile isDecimalDigit
  (ofDigits? 10 digits).map fun n => (n, cs.drop digits.length)

/-- Exactly `count` digits in front, and what follows them. -/
def fixedNumber? (count : Nat) (cs : List Char) : Option (Nat × List Char) :=
  let digits := (cs.take count).takeWhile isDecimalDigit
  if digits.length == count then (ofDigits? 10 digits).map fun n => (n, cs.drop count) else none

/-- The characters after a given one. -/
def after? (c : Char) : List Char → Option (List Char)
  | d :: rest => if c == d then some rest else none
  | [] => none

/-- A distance from universal time at the end of a time. -/
def rawZone? (cs : List Char) : Option (Option (Option (Bool × Nat × Nat))) :=
  match cs.dropWhile isSpaceOrTab with
  | [] => if cs.isEmpty then some none else none
  | ['Z'] => some (some none)
  | sign :: rest =>
    if sign == '+' || sign == '-' then
      match shortNumber? rest with
      | some (hour, []) => some (some (some (sign == '-', hour, 0)))
      | some (hour, ':' :: rest) =>
        match fixedNumber? 2 rest with
        | some (minute, []) => some (some (some (sign == '-', hour, minute)))
        | _ => none
      | _ => none
    else none

/-- A clock reading and a distance from universal time. -/
def rawClock? (cs : List Char) :
    Option ((Nat × Nat × Nat × List Char) × Option (Option (Bool × Nat × Nat))) := do
  let (hour, cs) ← shortNumber? cs
  let (minute, cs) ← (after? ':' cs).bind (fixedNumber? 2)
  let (second, cs) ← (after? ':' cs).bind (fixedNumber? 2)
  let (fraction, cs) := match cs with
    | '.' :: rest => (rest.takeWhile isDecimalDigit, rest.dropWhile isDecimalDigit)
    | cs => ([], cs)
  let zone ← rawZone? cs
  return ((hour, minute, second, fraction), zone)

/-- The parts of a time. Month and day may have one digit. -/
def rawTime? (cs : List Char) : Option RawTime := do
  let (year, cs) ← fixedNumber? 4 cs
  let (month, cs) ← (after? '-' cs).bind shortNumber?
  let (day, cs) ← (after? '-' cs).bind shortNumber?
  match cs with
  | [] => return ⟨year, month, day, none, none⟩
  | c :: rest =>
    let rest := if isSpaceOrTab c then rest.dropWhile isSpaceOrTab else rest
    if c == 'T' || c == 't' || isSpaceOrTab c then
      let (clock, zone) ← rawClock? rest
      return ⟨year, month, day, some clock, zone⟩
    else none

/-- A time that is told apart from text: without a clock reading, month and day have two digits. -/
def isTime (cs : List Char) : Bool :=
  match rawTime? cs with
  | some t => t.clock.isSome || cs.length == 10
  | none => false

/-! ## Tags of plain scalars -/

/-- A text without the line feed at its end, if there is something before it. -/
def withoutLastBreak (cs : List Char) : List Char :=
  if 1 < cs.length && cs.getLast? == some '\n' then cs.dropLast else cs

/-- The tag of a plain scalar. A line feed at its end makes no difference. -/
def plainTag (text : String) : String :=
  let cs := withoutLastBreak text.toList
  if isTruthWord cs then coreTag "bool"
  else if isFloatNumeral cs then coreTag "float"
  else if isWholeNumeral cs then coreTag "int"
  else if cs == ['<', '<'] then mergeTag
  else if isNullWord cs then coreTag "null"
  else if isTime cs then coreTag "timestamp"
  else if cs == ['='] then valueTag
  else if cs == ['!'] || cs == ['&'] || cs == ['*'] then coreTag "yaml"
  else textTag

end Scaffold.Yaml
