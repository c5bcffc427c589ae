import Scaffold.Json.Reader
import Scaffold.Text.Case
import Scaffold.Text.Utf8
import Scaffold.Tree.Path
import Scaffold.Yaml.Cursor

/-!
# Definition files

A definition file holds collections and options in JSON or YAML. A list in a file stands for a
definition with nothing but collections. The reader of YAML is given.
-/

namespace Scaffold

/-! ## Faults -/

/-- Why a definition file cannot be read. -/
inductive DefinitionFault where
  | encoding (fault : Utf8.Fault)
  | json (fault : Json.ReadFault)
  | yaml (fault : Yaml.Fault)
  | shape (path : Path) (kind : String)

namespace Definition

/-! ## Texts -/

/-- A text in which every line ends with one line feed. -/
def unifyLines : List Char → List Char
  | [] => []
  | '\r' :: '\n' :: rest => '\n' :: unifyLines rest
  | '\r' :: rest => '\n' :: unifyLines rest
  | c :: rest => c :: unifyLines rest

/-- The endings of the names of YAML files. -/
def yamlEndings : List String := [".yaml", ".yml"]

/-- The file with a path holds YAML. -/
def isYaml (path : Path) : Bool := yamlEndings.contains (Text.lower path.ending)

/-- A reader of YAML. -/
abbrev YamlReader := String → Except Yaml.Fault Value

/-- The value in the text of a definition file. -/
def parse (readYaml : YamlReader) (path : Path) (text : String) : Except DefinitionFault Value :=
  if isYaml path then (readYaml text).mapError .yaml else (Json.read text).mapError .json

/-! ## Shapes -/

/-- The key of the collections. -/
def collectionsKey : String := "collections"

/-- The key of the options. -/
def optionsKey : String := "options"

/-- A mapping in which a key has a value, its own or the given one. -/
def withDefault (key : String) (default : Value) (entries : List (Value × Value)) :
    List (Value × Value) :=
  match Value.field? entries key with
  | some _ => entries
  | none => entries ++ [(.text key, default)]

/-- A mapping with collections and options. A mapping that contains itself has them inside too. -/
def completed : Value → Value
  | .map entries =>
    .map (withDefault optionsKey (.map []) (withDefault collectionsKey (.list []) entries))
  | .knot label inside => .knot label (completed inside)
  | v => v

/-- The definition that a value stands for. -/
def ofValue (path : Path) (v : Value) : Except DefinitionFault (List (Value × Value)) :=
  match v.opened, (completed v).entries? with
  | .list _, _ => .ok [(.text collectionsKey, v), (.text optionsKey, .map [])]
  | _, some entries => .ok entries
  | _, none => .error (.shape path v.kindName)

/-- The definition in the bytes of a file. -/
def read (readYaml : YamlReader) (path : Path) (bytes : ByteArray) :
    Except DefinitionFault (List (Value × Value)) :=
  match Utf8.decode bytes with
  | .error e => .error (.encoding e)
  | .ok text =>
    match parse readYaml path (String.ofList (unifyLines text.toList)) with
    | .error e => .error e
    | .ok v => ofValue path v

end Definition

end Scaffold
