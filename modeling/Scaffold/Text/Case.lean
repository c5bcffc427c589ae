import Scaffold.Text.Blank
import Scaffold.Text.CaseTable

/-!
# Case

Lower-casing of whole texts, with the two places where a letter is not simply replaced by its small
form: the dotted capital I, and the sigma that ends a word. The ASCII forms, which names and labels
are built from, come first.
-/

namespace Scaffold.Text

/-! ## ASCII -/

/-- A small ASCII letter. -/
def isLowerAscii (c : Char) : Bool := 'a' ≤ c && c ≤ 'z'

/-- A capital ASCII letter. -/
def isUpperAscii (c : Char) : Bool := 'A' ≤ c && c ≤ 'Z'

/-- An ASCII digit. -/
def isDigitAscii (c : Char) : Bool := '0' ≤ c && c ≤ '9'

/-- An ASCII letter or digit. -/
def isWordAscii (c : Char) : Bool := isLowerAscii c || isUpperAscii c || isDigitAscii c

/-- The small form of an ASCII capital; other characters stand for themselves. -/
def lowerAscii (c : Char) : Char :=
  if isUpperAscii c then Char.ofNat (c.toNat + 32) else c

/-- The capital form of a small ASCII letter; other characters stand for themselves. -/
def upperAscii (c : Char) : Char :=
  if isLowerAscii c then Char.ofNat (c.toNat - 32) else c

/-! ## Full lower-casing -/

/-- The small letter that the case table gives for a code point. -/
def lowerRun? (runs : List (Nat × Nat × Nat × Int)) (n : Nat) : Option Nat :=
  match runs with
  | [] => none
  | (first, last, step, distance) :: rest =>
    if first ≤ n && n ≤ last && (n - first) % step == 0 then
      some ((n : Int) + distance).toNat
    else
      lowerRun? rest n

/-- The small form of one character, where it does not depend on its neighbours. -/
def lowerChar (c : Char) : Char :=
  if c.toNat < 0x80 then lowerAscii c
  else match lowerRun? lowerRuns c.toNat with
    | some n => Char.ofNat n
    | none => c

/-- The first character that does not merely attach to its neighbours has case. -/
def startsCased (cs : List Char) : Bool :=
  match cs.dropWhile fun c => inRanges caseIgnorableRanges c.toNat with
  | [] => false
  | c :: _ => inRanges casedRanges c.toNat

/-- Lower-cases the characters that follow `before`, which holds the characters already read, the
latest first. A capital sigma becomes a final sigma when letters come before it and none after, and
the dotted capital I becomes a small i with a combining dot. -/
def lowerFrom (before : List Char) : List Char → List Char
  | [] => []
  | c :: rest =>
    let small :=
      if c = 'Σ' then
        if startsCased before && !startsCased rest then ['ς'] else ['σ']
      else if c = 'İ' then ['i', Char.ofNat 0x307]
      else [lowerChar c]
    small ++ lowerFrom (c :: before) rest

/-- A text in small letters. -/
def lower (s : String) : String :=
  String.ofList (lowerFrom [] s.toList)

end Scaffold.Text
