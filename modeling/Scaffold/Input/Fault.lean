import Scaffold.Field.Kind
import Scaffold.Text.Utf8

/-!
# Input faults

What is wrong with loosely typed input to a typed record, part by part. All faults of a record are
found, in the order of its parts.
-/

namespace Scaffold.Input

/-! ## Faults -/

/-- A step on the way to a part of a record: a part or a key by its text, or a place or a key by its
number. -/
inductive Step where
  | field (name : String)
  | index (i : Int)
  deriving DecidableEq, Repr

/-- The number of whole numbers of sixty-four bits that are not negative, which is `2 ^ 63`. -/
def wordEnd : Int := 9223372036854775808

/-- A whole number of sixty-four bits. -/
def isWord (n : Int) : Bool := -wordEnd ≤ n && n < wordEnd

/-- The step to a key of a mapping. A key that is neither a text nor a number of sixty-four bits is
given by its literal. -/
def Step.key : Value → Step
  | .text s => .field s
  | .bool b => .index (Value.boolToInt b)
  | .int n => if isWord n then .index n else .field (toString n)
  | v => .field v.literal

/-- What is wrong with a part. -/
inductive FaultKind where
  | missing
  | text
  | textEncoding
  | textTooShort
  | truthKind
  | truthWord
  | fieldKind
  | mapping
  | textSet
  | path
  | longNumber
  deriving DecidableEq, Repr

namespace FaultKind

/-- The short name of a kind of fault. -/
def code : FaultKind → String
  | missing => "missing"
  | text => "string_type"
  | textEncoding => "string_unicode"
  | textTooShort => "string_too_short"
  | truthKind => "bool_type"
  | truthWord => "bool_parsing"
  | fieldKind => "enum"
  | mapping => "dict_type"
  | textSet => "frozen_set_type"
  | path => "path_type"
  | longNumber => "value_error"

/-- The text of a kind of fault. -/
def message : FaultKind → String
  | missing => "Field required"
  | text => "Input should be a valid string"
  | textEncoding =>
    "Input should be a valid string, unable to parse raw data as a unicode string"
  | textTooShort => "String should have at least 1 character"
  | truthKind => "Input should be a valid boolean"
  | truthWord => "Input should be a valid boolean, unable to interpret input"
  | fieldKind =>
    let tags := Kind.all.map fun k => "'" ++ k.tag ++ "'"
    "Input should be " ++ commaList tags.dropLast ++ " or " ++ tags.getLastD ""
  | mapping => "Input should be a valid dictionary"
  | textSet => "Input should be a valid frozenset"
  | path => "Input is not a valid path for <class 'pathlib.Path'>"
  | longNumber => "Value error, " ++ digitLimitMessage ""

end FaultKind

/-- A fault and where it is. -/
structure Fault where
  steps : List Step
  kind : FaultKind
  deriving DecidableEq, Repr

/-- A part of a record, or everything that is wrong with it. -/
abbrev Checked (α : Type) := Except (List Fault) α

/-- A part with one fault. -/
def fail {α : Type} (steps : List Step) (kind : FaultKind) : Checked α := .error [⟨steps, kind⟩]

/-- Two parts, or everything that is wrong with them. -/
def both {α β : Type} (a : Checked α) (b : Checked β) : Checked (α × β) :=
  match a, b with
  | .ok x, .ok y => .ok (x, y)
  | .error e, .error f => .error (e ++ f)
  | .error e, .ok _ => .error e
  | .ok _, .error e => .error e

/-- All parts of a list, or everything that is wrong with them. -/
def every {α : Type} : List (Checked α) → Checked (List α)
  | [] => .ok []
  | a :: rest => (both a (every rest)).map fun (x, xs) => x :: xs

/-! ## Parts -/

/-- A text. Bytes stand for the text that they encode. -/
def text (steps : List Step) : Value → Checked String
  | .text s => .ok s
  | .bytes b =>
    match Utf8.decode b with
    | .ok s => .ok s
    | .error _ => fail steps .textEncoding
  | _ => fail steps .text

/-- A text that is not empty. -/
def nonemptyText (steps : List Step) (v : Value) : Checked String :=
  match text steps v with
  | .ok s => if s.isEmpty then fail steps .textTooShort else .ok s
  | .error e => .error e

/-- A text that may be left out with null. -/
def optionalText (steps : List Step) : Value → Checked (Option String)
  | .null => .ok none
  | v => (text steps v).map some

/-- The words for false and for true. -/
def falseWords : List String := ["0", "off", "f", "false", "n", "no"]

/-- The words for true. -/
def trueWords : List String := ["1", "on", "t", "true", "y", "yes"]

/-- A truth value from a word, whatever its capitals. -/
def truthOfWord (steps : List Step) (cs : List Char) : Checked Bool :=
  let word := String.ofList (cs.map Text.lowerAscii)
  if falseWords.contains word then .ok false
  else if trueWords.contains word then .ok true
  else fail steps .truthWord

/-- A truth value from a whole number: zero and one stand for themselves. A number beyond sixty-four
bits is none. -/
def truthOfInt (steps : List Step) (n : Int) : Checked Bool :=
  if n == 0 then .ok false
  else if n == 1 then .ok true
  else if isWord n then fail steps .truthWord
  else fail steps .truthKind

/-- A truth value, also as a word or a number. -/
def truth (steps : List Step) : Value → Checked Bool
  | .bool b => .ok b
  | .int n => truthOfInt steps n
  | .float x =>
    match x.toInt? with
    | some n => if isWord n && n != -wordEnd then truthOfInt steps n else fail steps .truthKind
    | none => fail steps .truthKind
  | .text s => truthOfWord steps s.toList
  | .bytes b =>
    match Utf8.decode b with
    | .ok s => truthOfWord steps s.toList
    | .error _ => fail steps .truthWord
  | _ => fail steps .truthKind

/-- A kind of fields by its tag. -/
def fieldKind (steps : List Step) : Value → Checked Kind
  | .text s =>
    match Kind.ofTag? s with
    | some k => .ok k
    | none => fail steps .fieldKind
  | _ => fail steps .fieldKind

/-- The texts of a list, from the place `i` on. -/
def textItems (steps : List Step) : Nat → List Value → List (Checked String)
  | _, [] => []
  | i, v :: rest => text (steps ++ [.index i]) v :: textItems steps (i + 1) rest

/-- A collection of texts: a list, a tuple or a set. -/
def textCollection (steps : List Step) : Value → Checked (List String)
  | .list items | .tuple items | .set items => every (textItems steps 0 items)
  | _ => fail steps .textSet

/-- A part that has to be given. -/
def required {α : Type} (name : String) (given : List (String × Value))
    (read : List Step → Value → Checked α) : Checked α :=
  match given.lookup name with
  | some v => read [.field name] v
  | none => fail [.field name] .missing

/-- A part with a value for when it is not given. -/
def withDefault {α : Type} (name : String) (given : List (String × Value)) (default : α)
    (read : List Step → Value → Checked α) : Checked α :=
  match given.lookup name with
  | some v => read [.field name] v
  | none => .ok default

end Scaffold.Input
