import Scaffold.Calendar.Moment

/-!
# Values

Loosely typed data as it stands in definition files, records and template contexts. A mapping keeps
the order in which its keys were first given and may have keys of any kind; whole numbers, truth
values and floating-point numbers that are equal are the same key. A container that contains itself
is a knot with a label, and inside of it the label stands for the knot.
-/

namespace Scaffold

/-! ## The type -/

/-- A value of any kind. -/
inductive Value where
  | null
  | bool (b : Bool)
  | int (n : Int)
  | float (x : Binary64)
  | text (s : String)
  | list (items : List Value)
  | tuple (items : List Value)
  | map (entries : List (Value × Value))
  | set (items : List Value)
  | date (d : Date)
  | moment (m : Moment)
  | bytes (b : ByteArray)
  /-- A container that contains itself. -/
  | knot (label : Nat) (inside : Value)
  /-- The knot around that has the label. -/
  | again (label : Nat)
  deriving Inhabited

namespace Value

/-- The name of a value's kind, as messages give it. A label without a knot counts as null. -/
def kindName : Value → String
  | null => "NoneType"
  | bool _ => "bool"
  | int _ => "int"
  | float _ => "float"
  | text _ => "str"
  | list _ => "list"
  | tuple _ => "tuple"
  | map _ => "dict"
  | set _ => "set"
  | date _ => "date"
  | moment _ => "datetime"
  | bytes _ => "bytes"
  | knot _ inside => inside.kindName
  | again _ => "NoneType"

/-! ## Knots -/

mutual

/-- A value with another one in all places where a label stands for the knot around the value. -/
def tie (label : Nat) (whole : Value) : Value → Value
  | list items => .list (tieItems label whole items)
  | tuple items => .tuple (tieItems label whole items)
  | map entries => .map (tieEntries label whole entries)
  | set items => .set (tieItems label whole items)
  | knot l inside => if l == label then .knot l inside else .knot l (tie label whole inside)
  | again l => if l == label then whole else .again l
  | v => v

/-- The items of a container with another value in all places of a label. -/
def tieItems (label : Nat) (whole : Value) : List Value → List Value
  | [] => []
  | v :: rest => tie label whole v :: tieItems label whole rest

/-- The entries of a mapping with another value in all places of a label. -/
def tieEntries (label : Nat) (whole : Value) : List (Value × Value) → List (Value × Value)
  | [] => []
  | (k, v) :: rest => (tie label whole k, tie label whole v) :: tieEntries label whole rest

end

/-- The container that a knot is, with the knot in the places of its label. What is no knot stays as
it is. -/
def opened : Value → Value
  | knot label inside => tie label (.knot label inside) inside
  | v => v

/-! ## Equality -/

/-- Equality of a whole number with a floating-point number. -/
def intEqFloat (n : Int) (x : Binary64) : Bool := x.toInt? == some n

/-- The whole number that a truth value counts as. -/
def boolToInt (b : Bool) : Int := if b then 1 else 0

mutual

/-- Equality of values. Numbers of different kinds are equal when their values are, lists and tuples
are never equal to each other, and mappings are equal in any order of their keys. -/
def same : Value → Value → Bool
  | null, null => true
  | bool a, bool b => a == b
  | bool a, int b => boolToInt a == b
  | bool a, float b => intEqFloat (boolToInt a) b
  | int a, bool b => a == boolToInt b
  | int a, int b => a == b
  | int a, float b => intEqFloat a b
  | float a, bool b => intEqFloat (boolToInt b) a
  | float a, int b => intEqFloat b a
  | float a, float b => a.sameValue b
  | text a, text b => a == b
  | list a, list b => sameItems a b
  | tuple a, tuple b => sameItems a b
  | map a, map b => a.length == b.length && sameEntries a b
  | set a, set b => a.length == b.length && allAmong a b
  | date a, date b => a == b
  | moment a, moment b => a.same b
  | bytes a, bytes b => a.data == b.data
  | _, _ => false

/-- Equality of lists of values, item by item. -/
def sameItems : List Value → List Value → Bool
  | [], [] => true
  | a :: as, b :: bs => a.same b && sameItems as bs
  | _, _ => false

/-- Every entry has an equal one in the second list. -/
def sameEntries : List (Value × Value) → List (Value × Value) → Bool
  | [], _ => true
  | (k, v) :: rest, others =>
    others.any (fun other => k.same other.1 && v.same other.2) && sameEntries rest others

/-- Every value has an equal one in the second list. -/
def allAmong : List Value → List Value → Bool
  | [], _ => true
  | a :: rest, others => others.any (fun other => a.same other) && allAmong rest others

end

mutual

/-- A value that can be a key of a mapping. -/
def isKey : Value → Bool
  | list _ | map _ | set _ | knot _ _ | again _ => false
  | tuple items => areKeys items
  | _ => true

/-- Every value can be a key. -/
def areKeys : List Value → Bool
  | [] => true
  | v :: rest => v.isKey && areKeys rest

end

/-! ## Mappings -/

/-- The value of a key. -/
def lookup (entries : List (Value × Value)) (key : Value) : Option Value :=
  match entries with
  | [] => none
  | (k, v) :: rest => if k.same key then some v else lookup rest key

/-- The value of a textual key. -/
def field? (entries : List (Value × Value)) (key : String) : Option Value :=
  lookup entries (.text key)

/-- Gives a key a value. A key that is there keeps its spelling and its place; a new one comes
last. -/
def insert (key value : Value) : List (Value × Value) → List (Value × Value)
  | [] => [(key, value)]
  | (k, v) :: rest =>
    if k.same key then (k, value) :: rest else (k, v) :: insert key value rest

/-- The mapping that results from giving keys their values one after the other. -/
def mapping (entries : List (Value × Value)) : List (Value × Value) :=
  entries.foldl (fun acc e => insert e.1 e.2 acc) []

/-- A mapping with textual keys, which are assumed to differ. -/
def record (entries : List (String × Value)) : Value :=
  .map (entries.map fun e => (.text e.1, e.2))

/-- A list of texts. -/
def texts (items : List String) : Value := .list (items.map .text)

/-! ## Truth and iteration -/

/-- Whether a value counts as true: everything does but null, false, the zeros and what is
empty. -/
def truthy : Value → Bool
  | null => false
  | bool b => b
  | int n => n != 0
  | float x => !x.isZero
  | text s => !s.isEmpty
  | list items | tuple items | set items => !items.isEmpty
  | map entries => !entries.isEmpty
  | bytes b => !b.isEmpty
  | date _ | moment _ => true
  | knot _ inside => inside.truthy
  | again _ => false

/-- The values that come up when a value is gone through: items, characters, bytes or keys. -/
def elements? (v : Value) : Option (List Value) :=
  match v.opened with
  | list items | tuple items | set items => some items
  | text s => some (s.toList.map fun c => .text (String.singleton c))
  | map entries => some (entries.map Prod.fst)
  | bytes b => some (b.data.toList.map fun byte => .int byte.toNat)
  | _ => none

/-- The text of a textual value. -/
def text? : Value → Option String
  | text s => some s
  | _ => none

/-- The entries of a mapping. -/
def entries? (v : Value) : Option (List (Value × Value)) :=
  match v.opened with
  | map entries => some entries
  | _ => none

/-- The items of a list or a tuple. -/
def items? (v : Value) : Option (List Value) :=
  match v.opened with
  | list items | tuple items => some items
  | _ => none

/-- Null stands for something left out. -/
def isNull : Value → Bool
  | null => true
  | _ => false

end Value

end Scaffold
