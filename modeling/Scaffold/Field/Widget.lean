import Scaffold.Field.Kind

/-!
# Widgets

How a field is edited in a generated form.
-/

namespace Scaffold

/-- The element that edits a field. -/
inductive Element where
  | input
  | checkbox
  | textarea
  deriving DecidableEq, Repr

/-- The name of an element. -/
def Element.name : Element → String
  | input => "input"
  | checkbox => "checkbox"
  | textarea => "textarea"

/-- How a field is edited: the element and its input type, the modifier of its binding, hints for the
user, the ending of the name that the edited text has beside the field, and what is said of text that
cannot be read back, after the name of the field. -/
structure Widget where
  element : Element
  inputType : Option String := none
  modifier : String := ""
  placeholder : String := ""
  help : String := ""
  textSuffix : String := ""
  unreadable : Option String := none

namespace Widget

/-- The name that the form keeps the edited value under. -/
def modelKey (w : Widget) (field : String) : String := field ++ w.textSuffix

/-- The message for text that cannot be read back, empty if all text can. -/
def parseError (w : Widget) (field : String) : String :=
  match w.unreadable with
  | some rest => field ++ rest
  | none => ""

/-- The mark that stands for the field in the text of a message. -/
def fieldMark : String := "\x7bfield\x7d"

end Widget

/-- The widget of a kind. -/
def Kind.widget : Kind → Widget
  | text => { element := .input, inputType := some "text" }
  | number =>
    { element := .input, inputType := some "number", modifier := ".number", placeholder := "0" }
  | boolean => { element := .checkbox, inputType := some "checkbox" }
  | list =>
    { element := .textarea
      placeholder := "value1, value2, value3"
      help := "Separate values with commas."
      textSuffix := "Text" }
  | object =>
    { element := .textarea
      placeholder := "\x7b \"key\": \"value\" \x7d"
      help := "Enter a JSON object."
      textSuffix := "Json"
      unreadable := some " must be valid JSON." }
  | timestamp => { element := .input, inputType := some "datetime-local" }
  | email => { element := .input, inputType := some "email", placeholder := "name@example.com" }

end Scaffold
