import Scaffold.Field.Kind
import Scaffold.Name.Words

/-!
# Collections

A collection with its names and its typed fields, in the order of their declaration, and the
question whether it holds the identities of users.
-/

namespace Scaffold

/-! ## Fields -/

/-- A typed field with the type tag that was recorded for it. -/
structure Field where
  name : String
  kind : Kind
  declared : String := ""
  deriving DecidableEq, Repr

namespace Field

/-- The declared type was unknown, so the field is text. -/
def isFallback (f : Field) : Bool := !f.declared.isEmpty && f.declared != f.kind.tag

end Field

/-! ## Collections -/

/-- A named collection: the name as declared, its camel and Pascal spellings, its fields, and the
tag of the shape of its records. -/
structure Collection where
  name : String
  camelName : String
  pascalName : String
  fields : List Field := []
  dataType : String := "object"
  deriving DecidableEq, Repr

namespace Collection

/-- The first field with a name. -/
def field? (c : Collection) (name : String) : Option Field :=
  c.fields.find? fun f => f.name == name

/-- The fields of one of the given kinds. -/
def fieldsOf (c : Collection) (kinds : List Kind) : List Field :=
  c.fields.filter fun f => kinds.contains f.kind

/-- Gives a name a kind, in the place of its first mention. -/
def setKind (name : String) (kind : Kind) : List (String × Kind) → List (String × Kind)
  | [] => [(name, kind)]
  | (n, k) :: rest => if n == name then (n, kind) :: rest else (n, k) :: setKind name kind rest

/-- The kinds of the fields by name; of fields with one name the last counts. -/
def kinds (c : Collection) : List (String × Kind) :=
  c.fields.foldl (fun acc f => setKind f.name f.kind acc) []

end Collection

/-! ## Identity -/

namespace Identity

/-- The names of collections that hold users unless others are given. -/
def defaultNames : List String := [
  "users", "user", "customer", "customers", "client", "clients", "student", "students",
  "admin", "admins", "account", "accounts"]

/-- A name in the form in which identity names are compared. -/
def fold (name : String) : String := Text.lower (Text.trim name)

/-- A name is among the identity names, whatever its capitals and the blanks around it. -/
def isMember (name : String) (names : List String) : Bool :=
  (names.map fold).contains (fold name)

end Identity

/-- The collection holds the identities of users. -/
def Collection.isIdentity (c : Collection) (names : List String) : Bool :=
  Identity.isMember c.camelName names

end Scaffold
