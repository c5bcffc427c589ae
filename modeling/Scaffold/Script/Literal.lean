import Scaffold.Json.Printer

/-!
# JavaScript literals

Values as source text of generated modules. Texts stand in single quotes with the escapes of JSON, so
a literal never breaks a line and never ends early; lists of texts use the same quotes, and every
other value is written as JSON.
-/

namespace Scaffold.Script

/-- A character inside single quotes. -/
def escapeChar (c : Char) : List Char :=
  if c == '"' then [c]
  else if c == '\'' then ['\\', '\'']
  else Json.escapeChar c

/-- A text in single quotes. -/
def quote (s : String) : String :=
  "'" ++ String.ofList (s.toList.flatMap escapeChar) ++ "'"

/-- The texts of a list that holds nothing else. -/
def allTexts? (items : List Value) : Option (List String) := items.mapM Value.text?

/-- A list of texts in brackets. -/
def textList (items : List String) : String := "[" ++ commaList (items.map quote) ++ "]"

/-- The literal of a value. -/
def literal (v : Value) : Except Json.Unwritable String :=
  match v with
  | .text s => .ok (quote s)
  | _ =>
    match v.items?.bind allTexts? with
    | some items => .ok (textList items)
    | none => Json.write .line v

end Scaffold.Script
