import Scaffold.Text.Case
import Scaffold.Value.Display

/-!
# Kinds of fields

The closed set of types that a field can have, and how a type as declared is read. What names no
known type is text, and what was declared is kept beside it.
-/

namespace Scaffold

/-! ## The kinds -/

/-- The type of a field. -/
inductive Kind where
  | text
  | number
  | boolean
  | list
  | object
  | timestamp
  | email
  deriving DecidableEq, Repr

namespace Kind

/-- All kinds, in the order in which messages list them. -/
def all : List Kind := [text, number, boolean, list, object, timestamp, email]

/-- The tag of a kind in declarations. -/
def tag : Kind → String
  | text => "string"
  | number => "number"
  | boolean => "boolean"
  | list => "array"
  | object => "object"
  | timestamp => "timestamp"
  | email => "email"

/-- The kind with a tag. -/
def ofTag? (s : String) : Option Kind := all.find? fun k => k.tag == s

/-! ## Declared types -/

/-- The tag recorded for a field that names no type. -/
def untypedTag : String := "untyped"

/-- The text of a type as declared: without blanks around it, in small letters. Null is empty. -/
def declaredText (declared : Value) : String :=
  match declared with
  | .null => ""
  | v => Text.lower (Text.trim v.display)

/-- The kind of a type as declared, and the tag to record for it. -/
def resolve (declared : Value) : Kind × String :=
  let s := declaredText declared
  if s.isEmpty then (text, untypedTag)
  else ((ofTag? s).getD text, s)

end Kind

end Scaffold
