import Scaffold.Collection.Basic
import Scaffold.Field.Check

/-!
# Validation plans

The checks of a collection in the order in which they are made: first that every field is filled in,
then the kinds of the fields that are, then whether email addresses are taken. A plan checks a record
by itself and is also what the generated validator is made from.
-/

namespace Scaffold

/-! ## Checks -/

/-- The check that a field is filled in. -/
structure RequiredCheck where
  field : String
  message : String
  deriving DecidableEq, Repr

/-- The check that a field has a value of its kind, with a remark for the generated code. -/
structure TypeCheck where
  field : String
  kind : Kind
  remark : String := ""
  deriving DecidableEq, Repr

namespace TypeCheck

/-- The message for a value of another kind. -/
def message (c : TypeCheck) : String := c.kind.typeMessage c.field

/-- The check of a field; the remark tells of an unknown declared type. -/
def ofField (f : Field) : TypeCheck where
  field := f.name
  kind := f.kind
  remark :=
    if f.isFallback then "declared as '" ++ f.declared ++ "', validated as " ++ f.kind.tag else ""

end TypeCheck

/-! ## Plans -/

/-- The checks of a collection. -/
structure Plan where
  collection : String
  required : List RequiredCheck
  typeChecks : List TypeCheck
  emailFields : List String
  deriving DecidableEq, Repr

namespace Plan

/-- The plan of a collection. -/
def ofCollection (c : Collection) : Plan where
  collection := c.camelName
  required := c.fields.map fun f => ⟨f.name, requiredMessage f.name⟩
  typeChecks := c.fields.map TypeCheck.ofField
  emailFields := (c.fieldsOf [.email]).map Field.name

/-! ## Records -/

/-- A record: the values of fields by name. -/
abbrev Record := List (Value × Value)

/-- The value of a field in a record; a field that is not there has the value null. -/
def valueOf (record : Record) (field : String) : Value :=
  (Value.field? record field).getD .null

/-- The record that a value stands for; a value that counts as false is an empty one. A plan without
checks looks at nothing, so that any value will do. -/
def recordOf? (p : Plan) (v : Value) : Option Record :=
  if v.truthy && !(p.required.isEmpty && p.typeChecks.isEmpty) then v.entries? else some []

/-! ## Checking -/

/-- The required fields that are not filled in. It ends at a value of which this cannot be told. -/
def blanksOf (record : Record) : List RequiredCheck → Except TextFault (List RequiredCheck)
  | [] => .ok []
  | c :: rest =>
    match (valueOf record c.field).isBlank with
    | .ok blank => (blanksOf record rest).map fun found => if blank then c :: found else found
    | .error e => .error e

/-- The checks of kinds that fail among the fields that are not missing. -/
def mistyped (p : Plan) (record : Record) (missing : List String) : List TypeCheck :=
  p.typeChecks.filter fun c =>
    !missing.contains c.field && !c.kind.accepts (valueOf record c.field)

/-- The messages for a record, without asking whether addresses are taken. -/
def check (p : Plan) (record : Record) : Except TextFault (List String) :=
  (blanksOf record p.required).map fun blanks =>
    blanks.map RequiredCheck.message
      ++ (p.mistyped record (blanks.map RequiredCheck.field)).map TypeCheck.message

/-! ## Addresses -/

/-- The answer to whether an address is taken, or why there is none. -/
abbrev Lookup := String → Except String Bool

/-- What is found out about addresses: the messages for those that are taken, the addresses that were
asked about, and the fields for which there was no answer, with the reason. -/
structure Findings where
  messages : List String := []
  asked : List String := []
  failures : List (String × String) := []
  deriving DecidableEq, Repr

/-- Findings one after the other. -/
def Findings.append (a b : Findings) : Findings :=
  ⟨a.messages ++ b.messages, a.asked ++ b.asked, a.failures ++ b.failures⟩

/-- The findings about one address. -/
def findAddress (lookup : Lookup) (field address : String) : Findings :=
  match lookup address with
  | .ok true => ⟨[inUseMessage field], [address], []⟩
  | .ok false => ⟨[], [address], []⟩
  | .error reason => ⟨[], [address], [(field, reason)]⟩

/-- The findings about a field, for which nothing is asked if it is known to be missing or is no
address. -/
def findField (lookup : Lookup) (record : Record) (found : List String) (field : String) :
    Findings :=
  match valueOf record field with
  | .text s =>
    if found.contains (requiredMessage field) || !isEmail s then {}
    else findAddress lookup field s
  | _ => {}

/-- The findings about fields, in their order. -/
def findFields (lookup : Lookup) (record : Record) (found : List String) :
    List String → Findings
  | [] => {}
  | field :: rest =>
    (findField lookup record found field).append (findFields lookup record found rest)

/-- The messages for a record, with what is found out about its addresses. Nothing is asked if the record
cannot be checked. -/
def validate (p : Plan) (lookup : Lookup) (record : Record) :
    Except TextFault (List String × Findings) :=
  (p.check record).map fun found =>
    let findings := findFields lookup record found p.emailFields
    (found ++ findings.messages, findings)

/-- The warning for a field for which there was no answer. -/
def failureWarning (field reason : String) : String :=
  "Email existence check failed for " ++ field ++ ": " ++ reason

end Plan

end Scaffold
