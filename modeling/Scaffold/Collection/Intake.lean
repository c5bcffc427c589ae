import Scaffold.Collection.Basic
import Scaffold.Log

/-!
# Intake of collections

Raw declarations are read into collections. Intake either accepts a whole list of declarations or
stops at the first fault; what it notices on the way is kept as notes, also when it stops. A
declaration whose name has no letters or digits is passed over.
-/

namespace Scaffold

/-! ## Faults -/

/-- Why declarations cannot be read. Collections are counted from zero. -/
inductive SchemaFault where
  | notAList
  | notAMapping (index : Nat) (kind : String)
  | noName (index : Nat)
  | noFields (index : Nat) (name : String)
  | leadingDigit (index : Nat) (name : String)
  | collision (index : Nat) (name : String) (earlier : Nat) (camelName : String)
  | fieldEntry (index : Nat) (name : String) (entry : Value)
  | fieldsShape (index : Nat) (name : String)
  | blankField (index : Nat) (name : String)
  | notAnIdentifier (index : Nat) (name field : String)
  | reservedField (index : Nat) (name field : String)
  | typeTag (index : Nat) (name field : String) (tag : Value)
  | longNumber

namespace SchemaFault

/-- How messages refer to a collection. -/
def place (index : Nat) (name : String) : String :=
  "Collection #" ++ toString index ++ " ('" ++ name ++ "')"

/-- The text of a fault. -/
def message : SchemaFault → String
  | notAList => "Collections must be a list of collection declarations"
  | notAMapping index kind => "Collection #" ++ toString index ++ " must be a mapping, got " ++ kind
  | noName index => "Collection #" ++ toString index ++ " has no name"
  | noFields index name => place index name ++ " has no fields"
  | leadingDigit index name => place index name ++ " must not start with a digit"
  | collision index name earlier camelName =>
    place index name ++ " collides with collection #" ++ toString earlier ++ " on name '"
      ++ camelName ++ "'"
  | fieldEntry index name entry =>
    place index name ++ " has an unsupported field entry: " ++ entry.literal
  | fieldsShape index name => place index name ++ " fields must be a mapping or a list of pairs"
  | blankField index name => place index name ++ " has a field with a blank name"
  | notAnIdentifier index name field =>
    place index name ++ " field '" ++ field ++ "' is not a valid identifier"
  | reservedField index name field =>
    place index name ++ " field '" ++ field ++ "' is reserved for the document id"
  | typeTag index name field tag =>
    place index name ++ " field '" ++ field ++ "' has an invalid type tag " ++ tag.literal
  | longNumber => digitLimitMessage ""

end SchemaFault

/-! ## Notes -/

/-- What intake notices: a declaration that it passes over, a field without a type or with an unknown
one, a collection that holds users. -/
inductive Note where
  | skipped (index : Nat) (name : String)
  | untyped (collection field : String)
  | unknownType (collection field tag : String)
  | identity (camelName : String)
  deriving DecidableEq, Repr

namespace Note

/-- The log entry of a note about a whole declaration. -/
def entry? : Note → Option LogEntry
  | skipped index name =>
    some ⟨.warning, "Skipping collection #" ++ toString index ++ ": name " ++ Quoted.text name
      ++ " has no usable characters"⟩
  | identity camelName => some ⟨.debug, "Collection '" ++ camelName ++ "' is identity-like"⟩
  | _ => none

/-- The text of a note about the type of a field. -/
def warning? : Note → Option String
  | untyped collection field =>
    some (collection ++ "." ++ field ++ ": no type declared, treated as string")
  | unknownType collection field tag =>
    some (collection ++ "." ++ field ++ ": unknown type '" ++ tag ++ "', treated as string")
  | _ => none

end Note

/-- A result with the notes on the way to it, the first note first. -/
abbrev Noted (α : Type) := List Note × Except SchemaFault α

namespace Noted

/-- A result without notes. -/
def pure {α : Type} (a : α) : Noted α := ([], .ok a)

/-- A fault without notes. -/
def fail {α : Type} (e : SchemaFault) : Noted α := ([], .error e)

/-- Goes on with a result. -/
def andThen {α β : Type} (m : Noted α) (f : α → Noted β) : Noted β :=
  match m with
  | (notes, .error e) => (notes, .error e)
  | (notes, .ok a) => let next := f a; (notes ++ next.1, next.2)

/-- Takes a result without notes as it is. -/
def lift {α : Type} (r : Except SchemaFault α) : Noted α := ([], r)

end Noted

namespace Intake

/-! ## Patterns -/

/-- A character that an identifier may begin with. -/
def isIdentifierStart (c : Char) : Bool :=
  Text.isLowerAscii c || Text.isUpperAscii c || c == '_' || c == '$'

/-- A character of an identifier. -/
def isIdentifierChar (c : Char) : Bool := isIdentifierStart c || Text.isDigitAscii c

/-- An identifier of generated code. -/
def isIdentifier (s : String) : Bool :=
  match s.toList with
  | [] => false
  | c :: rest => isIdentifierStart c && rest.all isIdentifierChar

/-- A character of a type tag after its first one. -/
def isTagChar (c : Char) : Bool :=
  Text.isLowerAscii c || Text.isDigitAscii c || c == '_' || c == '-'

/-- A plain word that can be a type tag. -/
def isTypeTag (s : String) : Bool :=
  match s.toList with
  | [] => false
  | c :: rest => Text.isLowerAscii c && rest.all isTagChar

/-- Names that the generated data access keeps for itself. -/
def reservedNames : List String := ["id"]

/-! ## Fields -/

/-- The name and the type of a field in a list of fields: a mapping with a name, or a pair. -/
def pairOf? (entry : Value) : Option (Value × Value) :=
  let named := match entry.entries? with
    | some entries =>
      (Value.field? entries "name").map fun name =>
        (name, (Value.field? entries "type").getD .null)
    | none => none
  match named, entry.items? with
  | some pair, _ => some pair
  | none, some [name, type] => some (name, type)
  | none, _ => none

/-- The pairs of a list of fields, or the first entry that is none. -/
def pairsOf (index : Nat) (name : String) : List Value → Except SchemaFault (List (Value × Value))
  | [] => .ok []
  | entry :: rest =>
    match pairOf? entry with
    | none => .error (if entry.isShown then .fieldEntry index name entry else .longNumber)
    | some pair => (pairsOf index name rest).map (pair :: ·)

/-- The names and types of fields in any of their shapes. -/
def fieldPairs (index : Nat) (name : String) (fields : Value) :
    Except SchemaFault (List (Value × Value)) :=
  match fields.entries?, fields.items? with
  | some entries, _ => .ok entries
  | none, some items => pairsOf index name items
  | none, none => .error (.fieldsShape index name)

/-- The text of the name of a field. Null is empty. -/
def fieldName (v : Value) : String :=
  match v with
  | .null => ""
  | v => Text.trim v.display

/-- The field of a name and a type. -/
def readField (index : Nat) (name : String) (rawName rawType : Value) : Noted Field :=
  let field := fieldName rawName
  if !rawName.isShown then .fail .longNumber
  else if field.isEmpty then .fail (.blankField index name)
  else if !isIdentifier field then .fail (.notAnIdentifier index name field)
  else if reservedNames.contains field then .fail (.reservedField index name field)
  else if !rawType.isShown then .fail .longNumber
  else
    let (kind, declared) := Kind.resolve rawType
    if !isTypeTag declared then .fail (.typeTag index name field rawType)
    else
      let f : Field := ⟨field, kind, declared⟩
      let notes :=
        if declared == Kind.untypedTag then [Note.untyped name field]
        else if f.isFallback then [Note.unknownType name field declared]
        else []
      (notes, .ok f)

/-- The fields of names and types. -/
def readFields (index : Nat) (name : String) : List (Value × Value) → Noted (List Field)
  | [] => .pure []
  | (rawName, rawType) :: rest =>
    (readField index name rawName rawType).andThen fun f =>
      (readFields index name rest).andThen fun fs => .pure (f :: fs)

/-- Puts a field in the place of an earlier one with its name, else last. -/
def putField (f : Field) : List Field → List Field
  | [] => [f]
  | g :: rest => if g.name == f.name then f :: rest else g :: putField f rest

/-- Fields in the order of the first mention of their names, each as last mentioned. -/
def mergeFields (fs : List Field) : List Field := fs.foldl (fun acc f => putField f acc) []

/-! ## Collections -/

/-- What gives the tag of the shape of records: the value of the first of two keys that counts as
true. -/
def rawDataType (entries : List (Value × Value)) : Value :=
  let given (key : String) := (Value.field? entries key).filter Value.truthy
  ((given "dataType").orElse fun _ => given "data_type").getD (.text "object")

/-- The name that collections are told apart by, whatever their capitals. -/
def collisionKey (camelName : String) : String := String.ofList (camelName.toList.map Text.lowerAscii)

/-- Collision keys with the places where they were first used. -/
abbrev Seen := List (String × Nat)

/-- The collection of an entry whose name has words; `seen` holds the names before it. -/
def readNamed (index : Nat) (seen : Seen) (identity : List String) (name : String)
    (entries : List (Value × Value)) (fields : Value) : Noted Collection :=
  let camelName := Name.camel name
  if camelName.toList.head?.any Text.isDigitAscii then .fail (.leadingDigit index name)
  else
    match seen.lookup (collisionKey camelName) with
    | some earlier => .fail (.collision index name earlier camelName)
    | none =>
      (Noted.lift (fieldPairs index name fields)).andThen fun pairs =>
        (readFields index name pairs).andThen fun fs =>
          if !(rawDataType entries).isShown then .fail .longNumber
          else
            let c : Collection := {
              name := name
              camelName := camelName
              pascalName := Name.pascal name
              fields := mergeFields fs
              dataType := (rawDataType entries).display }
            (if c.isIdentity identity then [Note.identity camelName] else [], .ok c)

/-- The collection of an entry, none if its name has no words. -/
def readEntry (index : Nat) (seen : Seen) (identity : List String) (entry : Value) :
    Noted (Option Collection) :=
  match entry.entries? with
  | some entries =>
    match (Value.field? entries "name").getD .null, (Value.field? entries "fields").getD .null with
    | .null, _ => .fail (.noName index)
    | rawName, fields =>
      if !rawName.isShown then .fail .longNumber
      else if fields.isNull then .fail (.noFields index rawName.display)
      else
        let name := Text.trim rawName.display
        if (Name.camel name).isEmpty then ([.skipped index name], .ok none)
        else (readNamed index seen identity name entries fields).andThen fun c => .pure (some c)
  | none => .fail (.notAMapping index entry.kindName)

/-- The collections of the entries from a place on. -/
def readFrom (identity : List String) : Nat → Seen → List Value → Noted (List Collection)
  | _, _, [] => .pure []
  | index, seen, entry :: rest =>
    (readEntry index seen identity entry).andThen fun found =>
      match found with
      | none => readFrom identity (index + 1) seen rest
      | some c =>
        (readFrom identity (index + 1) ((collisionKey c.camelName, index) :: seen) rest).andThen
          fun cs => .pure (c :: cs)

/-- The declarations in a value. Texts and bytes hold none. -/
def entriesOf? (v : Value) : Option (List Value) :=
  match v.opened with
  | .text _ | .bytes _ => none
  | _ => v.elements?

/-- What declarations are read from: a value, or any other object, of which only the values count that come
up when it is gone through, if it can be. -/
inductive Given where
  | value (v : Value)
  | object (elements? : Option (List Value))

/-- The declarations in what is given. -/
def Given.declarations? : Given → Option (List Value)
  | value v => entriesOf? v
  | object elements? => elements?

/-- The collections of what is given. The identity names are used for notes only. -/
def readGiven (identity : List String) (raw : Given) : Noted (List Collection) :=
  match raw.declarations? with
  | none => .fail .notAList
  | some entries => readFrom identity 0 [] entries

/-- The collections of raw declarations. -/
def read (identity : List String) (raw : Value) : Noted (List Collection) :=
  readGiven identity (.value raw)

end Intake

end Scaffold
