import Scaffold.Number.Notation
import Scaffold.Value.Basic

/-!
# Durations

The text of a duration: seconds with two places below a minute, else minutes and whole seconds.
-/

namespace Scaffold.Duration

/-! ## Text -/

/-- The text of minutes and of the seconds `num / den` beside them. -/
def text (minutes num den : Nat) : String :=
  if 0 < minutes then toString minutes ++ "m " ++ toString (num / den) ++ "s"
  else twoPlaces num den ++ "s"

/-- The text of the duration of `num / den` seconds. -/
def ofRatio (num den : Nat) : String := text (num / (60 * den)) (num % (60 * den)) den

/-- The text of what is less than no time. -/
def noTime : String := "0.00s"

/-! ## Floating-point seconds -/

/-- The whole number at or below a finite number, or the one above it if that is nearer. -/
def wholeNear (x : Binary64) : Nat :=
  match x.toRatio? with
  | some (_, num, den) => if den < 2 * (num % den) then num / den + 1 else num / den
  | none => 0

/-- The minutes in `num / den` seconds as floating-point arithmetic finds them: the seconds of whole
minutes and their number are each rounded to the nearest floating-point number. -/
def minutesNear (num den : Nat) : Nat :=
  match (Binary64.ofRatio false (num / (60 * den) * 60) 1).toRatio? with
  | some (_, n, d) => wholeNear (Binary64.ofRatio false n (d * 60))
  | none => 0

/-! ## Values -/

/-- Why a value is no duration. -/
inductive Fault where
  | notANumber
  | endless
  deriving DecidableEq, Repr

/-- The text of a fault. -/
def Fault.message : Fault → String
  | notANumber => "a duration has to be a number"
  | endless => "cannot convert float NaN to integer"

/-- The text of a whole number of seconds. -/
def ofInt (n : Int) : String := if n < 0 then noTime else ofRatio n.toNat 1

/-- The text of a floating-point number of seconds. -/
def ofFloat : Binary64 → Except Fault String
  | .nan => .error .endless
  | .infinite negative => if negative then .ok noTime else .error .endless
  | .finite negative m e =>
    if negative && m != 0 then .ok noTime
    else
      let (num, den) := Binary64.ratio m e
      .ok (text (minutesNear num den) (num % (60 * den)) den)

/-- The text of a value as a duration. -/
def ofValue : Value → Except Fault String
  | .bool b => .ok (ofInt (Value.boolToInt b))
  | .int n => .ok (ofInt n)
  | .float x => ofFloat x
  | _ => .error .notANumber

end Scaffold.Duration
