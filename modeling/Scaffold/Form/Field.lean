import Scaffold.Collection.Basic
import Scaffold.Field.Codec
import Scaffold.Field.Widget
import Scaffold.Name.Label
import Scaffold.Script.Literal
import Scaffold.Text.Distinct

/-!
# Form fields

What the generated views know about a field: the name it is edited under, the value it starts from,
how it is filled from a record and read back, and its widget.
-/

namespace Scaffold

/-! ## Markup text -/

/-- A character of markup as text. -/
def Markup.escapeChar (c : Char) : String :=
  match c with
  | '&' => "&amp;"
  | '<' => "&lt;"
  | '>' => "&gt;"
  | '"' => "&quot;"
  | '\'' => "&#x27;"
  | c => c.toString

/-- Text in markup. -/
def Markup.escape (s : String) : String := String.join (s.toList.map Markup.escapeChar)

/-! ## Fields -/

/-- A field of a form. -/
structure FormField where
  field : Field
  deriving DecidableEq, Repr

namespace FormField

variable (f : FormField)

/-- The name of the field. -/
def name : String := f.field.name

/-- The kind of the field. -/
def kind : Kind := f.field.kind

/-- How the field is edited. -/
def shape : Widget := f.kind.widget

/-- The field is edited as a text beside its value. -/
def isTextual : Bool := !f.shape.textSuffix.isEmpty

/-- The label of the field. -/
def label : String := Name.label f.name

/-- The name that the form keeps the edited value under. -/
def modelKey : String := f.shape.modelKey f.name

/-- The function that turns the value into form text. -/
def encoder? : Option String := f.kind.encoder?

/-- The function that turns form text into the value, for a field that is edited as text. -/
def decoder? : Option String := if f.isTextual then f.kind.decoder? else none

/-- The literal that the form starts from: for a field that is edited as text, that of the form text of
the value that its kind starts from. -/
def initial : String :=
  match f.isTextual, f.kind.encode f.kind.defaultValue with
  | true, .ok (.text s) => Script.quote s
  | _, _ => f.kind.defaultLiteral

/-- The expression that fills the form from a record. -/
def loadExpression : String :=
  let reference := "record." ++ f.name
  match f.encoder? with
  | some encoder => encoder ++ "(" ++ reference ++ ")"
  | none => reference ++ " ?? " ++ f.kind.defaultLiteral

/-- The message for text that cannot be read back. -/
def parseError : String := f.shape.parseError f.name

/-- The remark for a field whose declared type is unknown. -/
def fallbackNote : String :=
  if f.field.isFallback then
    "Declared as '" ++ f.field.declared ++ "'; edited as plain text."
  else ""

/-! ## Widgets -/

/-- The space in front of the lines of a widget. -/
def margin : String := "      "

/-- An attribute of an element. -/
def property (name value : String) : String := name ++ "=\"" ++ value ++ "\""

/-- The binding of an element to the form. -/
def model : String := property ("v-model" ++ f.shape.modifier) ("form." ++ f.modelKey)

/-- The hint inside an element that is not filled in. -/
def placeholder : String :=
  if f.shape.placeholder.isEmpty then ""
  else " " ++ property "placeholder" (Markup.escape f.shape.placeholder)

/-- The label above an element. -/
def labelLine : String :=
  "  <label " ++ property "for" f.name ++ ">" ++ f.label ++ "</label>"

/-- The lines up to the element. -/
def elementLines : List String :=
  match f.shape.element with
  | .checkbox => [
    "<div class=\"form-field form-field--checkbox\">",
    "  <label " ++ property "for" f.name ++ ">",
    "    <input " ++ property "id" f.name ++ " " ++ f.model ++ " type=\"checkbox\" />",
    "    " ++ f.label,
    "  </label>"]
  | .textarea => [
    "<div class=\"form-field\">",
    f.labelLine,
    "  <textarea " ++ property "id" f.name ++ " " ++ f.model ++ " rows=\"4\"" ++ f.placeholder
      ++ "></textarea>"]
  | .input => [
    "<div class=\"form-field\">",
    f.labelLine,
    "  <input " ++ property "id" f.name ++ " " ++ f.model ++ " "
      ++ property "type" (f.shape.inputType.getD "") ++ f.placeholder ++ " />"]

/-- A remark below an element, if there is one. -/
def remarkLines (style text : String) : List String :=
  if text.isEmpty then []
  else ["  <small " ++ property "class" style ++ ">" ++ Markup.escape text ++ "</small>"]

/-- The line that shows what is wrong with the field. -/
def errorLine : String :=
  "  <p " ++ property "v-if" ("fieldErrors." ++ f.name)
    ++ " class=\"field-error\">\x7b\x7b fieldErrors." ++ f.name ++ " \x7d\x7d</p>"

/-- The lines of the widget. -/
def widgetLines : List String :=
  f.elementLines ++ remarkLines "field-help" f.shape.help
    ++ remarkLines "field-note" f.fallbackNote ++ [f.errorLine, "</div>"]

/-- The markup of the widget. -/
def widget : String := "\n".intercalate (f.widgetLines.map fun line => margin ++ line)

end FormField

/-- The fields of the forms of a collection. -/
def Collection.formFields (c : Collection) : List FormField := c.fields.map fun f => ⟨f⟩

/-! ## Imports -/

namespace FormField

/-- The functions that a field needs for reading form text. -/
def createCodecs (f : FormField) : List String := f.decoder?.toList

/-- The functions that a field needs for writing and reading form text. -/
def editCodecs (f : FormField) : List String := f.encoder?.toList ++ f.decoder?.toList

end FormField

/-- The functions that the view for creating a record imports. -/
def createImports (fields : List FormField) : List String :=
  Text.distinct (fields.flatMap FormField.createCodecs)

/-- The functions that the view for editing a record imports. -/
def editImports (fields : List FormField) : List String :=
  Text.distinct (fields.flatMap FormField.editCodecs)

end Scaffold
