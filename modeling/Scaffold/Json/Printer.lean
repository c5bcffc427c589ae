import Scaffold.Value.Display

/-!
# Writing JSON

Values as JSON text, on one line or indented. Characters outside ASCII stay as they are. Dates,
moments, bytes and sets have no JSON form, and neither have mappings with keys that are no scalars,
whole numbers of too many digits and containers inside of themselves.
-/

namespace Scaffold.Json

/-! ## Text -/

/-- A character inside a JSON text. -/
def escapeChar (c : Char) : List Char :=
  if c == '"' then ['\\', '"']
  else if c == '\\' then ['\\', '\\']
  else if c == '\n' then ['\\', 'n']
  else if c == '\r' then ['\\', 'r']
  else if c == '\t' then ['\\', 't']
  else if c == '\x0c' then ['\\', 'f']
  else if c == '\x08' then ['\\', 'b']
  else if c.toNat < 0x20 then ['\\', 'u'] ++ (Quoted.hex 4 c.toNat).toList
  else [c]

/-- The inside of a JSON text. -/
def escapeChars (cs : List Char) : List Char := cs.flatMap escapeChar

/-- A JSON text in double quotes. -/
def quote (s : String) : String := "\"" ++ String.ofList (escapeChars s.toList) ++ "\""

/-! ## Values -/

/-- A part of a value that has no JSON form. -/
inductive Unwritable where
  | key (kind : String)
  | value (kind : String)
  | digits
  | circular
  deriving DecidableEq, Repr

/-- The text of the fault. -/
def Unwritable.message : Unwritable → String
  | .key kind => "keys must be str, int, float, bool or None, not " ++ kind
  | .value kind => "Object of type " ++ kind ++ " is not JSON serializable"
  | .digits => digitLimitMessage ""
  | .circular => "Circular reference detected"

/-- How the items of a list or a mapping are set apart. -/
inductive Layout where
  /-- On one line. -/
  | line
  /-- Each on a line of its own, two spaces deeper; `depth` is the depth of the enclosing value. -/
  | indented (depth : Nat)

namespace Layout

/-- The layout one level deeper. -/
def deeper : Layout → Layout
  | line => line
  | indented depth => indented (depth + 1)

/-- The line break at a level. -/
def lineBreak : Layout → String
  | line => ""
  | indented depth => "\n" ++ String.ofList (List.replicate (2 * depth) ' ')

/-- What stands between two items. -/
def separator : Layout → String
  | line => ", "
  | l@(indented _) => "," ++ l.lineBreak

/-- Items between brackets; brackets around nothing touch. -/
def enclose (l : Layout) (opening closing : String) (items : List String) : String :=
  if items.isEmpty then opening ++ closing
  else
    opening ++ l.deeper.lineBreak ++ l.deeper.separator.intercalate items ++ l.lineBreak ++ closing

end Layout

/-- A whole number in its digits, if they are not too many. -/
def wholeNumber (n : Int) : Except Unwritable String :=
  if (Value.int n).isShown then .ok (toString n) else .error .digits

/-- The text of a key: scalars other than texts are quoted in their JSON form. -/
def keyText : Value → Except Unwritable String
  | .text s => .ok s
  | .null => .ok "null"
  | .bool b => .ok (if b then "true" else "false")
  | .int n => wholeNumber n
  | .float x => .ok (Notation.interchange.write x)
  | v => .error (.key v.kindName)

mutual

/-- A value as JSON text. -/
def write (l : Layout) : Value → Except Unwritable String
  | .null => .ok "null"
  | .bool b => .ok (if b then "true" else "false")
  | .int n => wholeNumber n
  | .float x => .ok (Notation.interchange.write x)
  | .text s => .ok (quote s)
  | .list items | .tuple items =>
    match writeItems l.deeper items with
    | .ok parts => .ok (l.enclose "[" "]" parts)
    | .error e => .error e
  | .map entries =>
    match writeEntries l.deeper entries with
    | .ok parts => .ok (l.enclose "\x7b" "\x7d" parts)
    | .error e => .error e
  | .knot _ inside => write l inside
  | .again _ => .error .circular
  | v => .error (.value v.kindName)

/-- The JSON texts of a list of values. -/
def writeItems (l : Layout) : List Value → Except Unwritable (List String)
  | [] => .ok []
  | v :: rest =>
    match write l v, writeItems l rest with
    | .ok part, .ok parts => .ok (part :: parts)
    | .error e, _ => .error e
    | _, .error e => .error e

/-- The JSON texts of the entries of a mapping. -/
def writeEntries (l : Layout) : List (Value × Value) → Except Unwritable (List String)
  | [] => .ok []
  | (k, v) :: rest =>
    match keyText k, write l v, writeEntries l rest with
    | .ok key, .ok part, .ok parts => .ok ((quote key ++ ": " ++ part) :: parts)
    | .error e, _, _ => .error e
    | _, .error e, _ => .error e
    | _, _, .error e => .error e

end

end Scaffold.Json
