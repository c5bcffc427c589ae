import Scaffold.Field.Blank
import Scaffold.Field.Kind
import Scaffold.Json.Encoding
import Scaffold.Json.Printer
import Scaffold.Json.Reader
import Scaffold.Text.Parts

/-!
# Form texts

Values that a form edits as text, and the way back: lists as entries with commas between them, objects
as JSON, moments as the value of a date-time input. All other values are edited as they are.
-/

namespace Scaffold

/-! ## Defaults -/

namespace Kind

/-- The value that a field of a kind starts from. -/
def defaultValue : Kind → Value
  | text | timestamp | email => .text ""
  | number => .int 0
  | boolean => .bool false
  | list => .list []
  | object => .map []

/-- The value that a field of a kind starts from, as source text. -/
def defaultLiteral : Kind → String
  | text | timestamp | email => "''"
  | number => "0"
  | boolean => "false"
  | list => "[]"
  | object => "\x7b\x7d"

/-! ## Names of the conversions in the script -/

/-- The function of the script that turns a value into form text. -/
def encoder? : Kind → Option String
  | list => some "toListText"
  | object => some "toObjectText"
  | timestamp => some "toDateTimeText"
  | _ => none

/-- The function of the script that turns form text into a value. -/
def decoder? : Kind → Option String
  | list => some "parseListText"
  | object => some "parseObjectText"
  | _ => none

end Kind

/-! ## Values as form text -/

/-- The number of characters of a date-time input's value. -/
def inputLength : Nat := 16

/-- Why a value has no form text. -/
inductive EncodeFault where
  | text (fault : TextFault)
  | json (fault : Json.Unwritable)
  deriving DecidableEq, Repr

/-- The message of the fault. -/
def EncodeFault.message : EncodeFault → String
  | text fault => fault.message
  | json fault => fault.message

/-- The form text of a list. -/
def listText (items : List Value) : Except TextFault String := (Value.scriptTexts items).map commaList

/-- The start of a text that a date-time input takes. -/
def inputStart (s : String) : String := String.ofList (s.toList.take inputLength)

/-- The form text of a moment, and of anything else that stands in its place. -/
def momentInput : Value → Except TextFault String
  | .moment m => .ok m.inputText
  | .date d => .ok d.inputMoment
  | .null => .ok ""
  | v => v.plainText.map inputStart

/-- The form text of an object. -/
def objectText (v : Value) : Except Json.Unwritable String :=
  if v.entries?.isSome then Json.write (.indented 0) v else .ok ""

/-- The form text of a value. What does not fit its kind gives an empty text. -/
def Kind.encode (k : Kind) (v : Value) : Except EncodeFault Value :=
  match k with
  | .list =>
    match v.items? with
    | some items => ((listText items).mapError .text).map .text
    | none => .ok (.text "")
  | .object => ((objectText v).mapError .json).map .text
  | .timestamp => ((momentInput v).mapError .text).map .text
  | _ => .ok v

/-! ## Form text as values -/

/-- Why form text stands for no value. -/
inductive DecodeFault where
  | json (fault : Json.ReadFault)
  | notAnObject
  | notText
  | encoding (fault : Json.EncodingFault)
  | text (fault : TextFault)

/-- The text of a fault. -/
def DecodeFault.message : DecodeFault → String
  | json fault => fault.message
  | notAnObject => "expected a JSON object"
  | notText => "the form text is not a text"
  | encoding fault => fault.message
  | text fault => fault.message

/-- The entries of a list text without the blanks around them. An empty text has none. -/
def listEntries (s : String) : List String :=
  if s.isEmpty then []
  else (Text.partsBetween ',' s.toList).map fun part => String.ofList (Text.trimChars part)

/-- The text that is decoded: nothing for what counts as false. -/
def decodedText (v : Value) : Except DecodeFault String :=
  if v.truthy then v.plainText.mapError .text else .ok ""

/-- The value that JSON in a text or in bytes stands for. Only bytes may begin with a byte-order
mark. -/
def readJson (v : Value) : Except DecodeFault Value :=
  match v with
  | .text s => (Json.read s).mapError .json
  | .bytes b =>
    match Json.decodeBytes b with
    | .ok points => (Json.readCodePoints points).mapError .json
    | .error e => .error (.encoding e)
  | _ => .error .notText

/-- The mapping that an object text stands for; blank text stands for an empty one. -/
def decodeObject (v : Value) : Except DecodeFault Value :=
  match decodedText v with
  | .error e => .error e
  | .ok s =>
    if Text.isBlankText s then .ok (.map [])
    else
      match readJson v with
      | .error e => .error e
      | .ok (.map entries) => .ok (.map entries)
      | .ok _ => .error .notAnObject

/-- The value that form text stands for. -/
def Kind.decode (k : Kind) (v : Value) : Except DecodeFault Value :=
  match k with
  | .list => (decodedText v).map fun s => Value.texts (listEntries s)
  | .object => decodeObject v
  | _ => .ok v

end Scaffold
