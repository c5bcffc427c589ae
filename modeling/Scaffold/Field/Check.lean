import Scaffold.Calendar.Iso
import Scaffold.Field.Blank
import Scaffold.Field.Kind

/-!
# Checks

What makes a value of a field acceptable, as a predicate on values and as the condition in the
generated script that holds for unacceptable ones, with the messages that users see.
-/

namespace Scaffold

/-! ## Conditions -/

/-- A condition in a script: pieces of text with the expression that reads the field between each two
of them. -/
structure Condition where
  pieces : List String

namespace Condition

/-- The condition for an expression that reads the field. -/
def render (c : Condition) (reference : String) : String := reference.intercalate c.pieces

/-- The mark that stands for the expression in the text of a condition. -/
def mark : String := "\x7bref\x7d"

/-- The condition with a mark in the place of the expression. -/
def template (c : Condition) : String := c.render mark

end Condition

namespace Kind

/-- The condition that holds for values that a kind does not accept. -/
def condition : Kind → Condition
  | text => ⟨["typeof ", " !== 'string'"]⟩
  | number => ⟨["typeof ", " !== 'number' || Number.isNaN(", ")"]⟩
  | boolean => ⟨["typeof ", " !== 'boolean'"]⟩
  | list => ⟨["!Array.isArray(", ")"]⟩
  | object => ⟨["typeof ", " !== 'object' || Array.isArray(", ")"]⟩
  | timestamp => ⟨["(typeof ", " !== 'string' && !(", " instanceof Date)) || Number.isNaN(new Date(",
      ").getTime())"]⟩
  | email => ⟨["typeof ", " !== 'string' || !EMAIL_PATTERN.test(", ")"]⟩

/-- What a value of a kind must be, as messages say it. -/
def requirement : Kind → String
  | text => "text"
  | number => "a number"
  | boolean => "true or false"
  | list => "a list"
  | object => "an object"
  | timestamp => "a valid date"
  | email => "a valid email address"

/-- The message for a field whose value its kind does not accept. -/
def typeMessage (k : Kind) (field : String) : String := field ++ " must be " ++ k.requirement ++ "."

end Kind

/-! ## Messages -/

/-- The message for a field that is not filled in. -/
def requiredMessage (field : String) : String := field ++ " is required."

/-- The message for an email address that is taken. -/
def inUseMessage (field : String) : String :=
  "The email address in " ++ field ++ " is already in use."

/-! ## Predicates -/

/-- The pattern of email addresses in the generated script. -/
def emailPattern : String := "/^\\S+@\\S+\\.\\S+$/"

/-- Something, an at sign, something, a dot and something, without blanks. -/
def isAddress (cs : List Char) : Bool :=
  cs.all (!Text.isBlank ·) &&
    match (cs.drop 1).dropWhile (· != '@') with
    | _ :: rest => (rest.drop 1).dropLast.contains '.'
    | [] => false

/-- A text without a line feed at its end. -/
def withoutLineEnd (cs : List Char) : List Char :=
  if cs.getLast? == some '\n' then cs.dropLast else cs

/-- An email address. One line feed may follow it. -/
def isEmail (s : String) : Bool := isAddress (withoutLineEnd s.toList)

/-- The text of a moment in the form that is read: without blanks around it, and with a numeric
distance where universal time is written as a letter. -/
def momentText (s : String) : String :=
  String.ofList ((Text.trim s).toList.flatMap fun c =>
    if c == 'Z' then "+00:00".toList else [c])

/-- A text that a moment can be read from. -/
def isMomentText (s : String) : Bool := (Iso.moment? (momentText s)).isSome

/-- A number that is one. -/
def Value.isNumber : Value → Bool
  | .int _ => true
  | .float x => !x.isNaN
  | _ => false

/-- A value that a kind accepts. A container that contains itself is one of its own kind. -/
def Kind.accepts (k : Kind) (v : Value) : Bool :=
  match k, v.opened with
  | .text, .text _ => true
  | .number, n => n.isNumber
  | .boolean, .bool _ => true
  | .list, .list _ => true
  | .list, .tuple _ => true
  | .object, .map _ => true
  | .timestamp, .date _ => true
  | .timestamp, .moment _ => true
  | .timestamp, .text s => isMomentText s
  | .email, .text s => isEmail s
  | _, _ => false

end Scaffold
