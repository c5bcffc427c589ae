import Scaffold.Value.Display

/-!
# Blank values

The text that a script sees in a value, and when a value counts as not filled in. There is no text for a
whole number of too many digits, and none for a list inside of itself.
-/

namespace Scaffold

/-- Why a value has no text. -/
inductive TextFault where
  | digits
  | endless
  deriving DecidableEq, Repr

/-- The message of the fault. -/
def TextFault.message : TextFault → String
  | digits => digitLimitMessage ""
  | endless => "maximum recursion depth exceeded"

namespace Value

/-- The text of a value, as it is shown. -/
def plainText (v : Value) : Except TextFault String := if v.isShown then .ok v.display else .error .digits

mutual

/-- The text of a value as a script converts it: nothing for null, whole numbers without a fraction and
in all their digits, the items of a list with commas between them. -/
def scriptText : Value → Except TextFault String
  | null => .ok ""
  | bool b => .ok (if b then "true" else "false")
  | float x =>
    if x.isNaN then .ok "NaN"
    else
      match x.toInt? with
      | some n => .ok (toString n)
      | none => .ok (Notation.shown.write x)
  | list items | tuple items => (scriptTexts items).map (",".intercalate ·)
  | map _ => .ok "[object Object]"
  | knot _ inside => inside.scriptText
  | again _ => .error .endless
  | v => v.plainText

/-- The script texts of a list of values. -/
def scriptTexts : List Value → Except TextFault (List String)
  | [] => .ok []
  | v :: rest =>
    match v.scriptText with
    | .ok s => (scriptTexts rest).map (s :: ·)
    | .error e => .error e

end

/-- Whether a value counts as not filled in. -/
def isBlank (v : Value) : Except TextFault Bool :=
  if v.isNull then .ok true else v.scriptText.map Text.isBlankText

end Value

end Scaffold
