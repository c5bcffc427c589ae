import Scaffold.Script.Literal
import Scaffold.Template.Basic

/-!
# Rendering

The text that a template stands for. A variable or a part that is missing is a fault as soon as its
value matters, so that no generated file has a gap in it.
-/

namespace Scaffold

/-! ## Faults -/

/-- Why a template has no text: something is missing, or a value is of a kind that cannot stand where
it does. -/
inductive RenderFault where
  | missing (message : String)
  | unfit (message : String)
  deriving DecidableEq, Repr

/-- The text of a fault. -/
def RenderFault.message : RenderFault → String
  | missing message => message
  | unfit message => message

/-! ## Scopes -/

/-- The value of an expression, or what is missing. -/
inductive Slot where
  | value (v : Value)
  | missing (message : String)

namespace Slot

/-- The value of a slot, which has to be there. -/
def get : Slot → Except RenderFault Value
  | value v => .ok v
  | missing message => .error (.missing message)

end Slot

/-- The variables of a template with what they stand for; the first mention of a variable counts. -/
abbrev Scope := List (String × Slot)

/-- The scope of values. -/
def Scope.ofValues (values : List (String × Value)) : Scope :=
  values.map fun v => (v.1, .value v.2)

/-! ## Expressions -/

namespace Expr

/-- How messages name a value whose part is missing. -/
def ownerName : Value → String
  | .null => "None"
  | .date _ => "datetime.date object"
  | .moment _ => "datetime.datetime object"
  | v => v.kindName ++ " object"

/-- The message for a part with a name that a value does not have. -/
def noPart (owner : Value) (n : String) : String :=
  Quoted.text (ownerName owner) ++ " has no attribute " ++ Quoted.text n

/-- The message for an element that a value does not have. -/
def noElement (owner index : Value) : String :=
  match index with
  | .text n => noPart owner n
  | _ => ownerName owner ++ " has no element " ++ index.literal

/-- The item at a place, counted from the end if it is negative. -/
def itemAt? {α : Type} (items : List α) (i : Int) : Option α :=
  if 0 ≤ i then items[i.toNat]?
  else if -(items.length : Int) ≤ i then items[(items.length + i).toNat]?
  else none

/-- The place that a value names. -/
def place? : Value → Option Int
  | .int n => some n
  | .bool b => some (Value.boolToInt b)
  | _ => none

/-- The element of a value that another value names: an item of a sequence, or the value of a key. -/
def elementOf? (owner index : Value) : Option Value :=
  match owner with
  | .map entries => if index.isKey then Value.lookup entries index else none
  | .list items | .tuple items => (place? index).bind (itemAt? items)
  | .text s => ((place? index).bind (itemAt? s.toList)).map fun c => .text c.toString
  | .bytes b => ((place? index).bind (itemAt? b.data.toList)).map fun x => .int x.toNat
  | _ => none

/-- The properties of a number, a day or a moment by their names. -/
def properties : Value → List (String × Value)
  | .bool b => wholeProperties (Value.boolToInt b)
  | .int n => wholeProperties n
  | .float x => [("real", .float x), ("imag", .float (Binary64.zero false))]
  | .date d => dayProperties d
  | .moment m =>
    dayProperties m.date
      ++ [("hour", .int m.time.hour), ("minute", .int m.time.minute),
        ("second", .int m.time.second), ("microsecond", .int m.time.microsecond), ("fold", .int 0)]
      ++ (if m.offset.isNone then [("tzinfo", .null)] else [])
  | _ => []
where
  wholeProperties (n : Int) : List (String × Value) :=
    [("real", .int n), ("imag", .int 0), ("numerator", .int n), ("denominator", .int 1)]
  dayProperties (d : Date) : List (String × Value) :=
    [("year", .int d.year), ("month", .int d.month), ("day", .int d.day)]

/-- What a value in brackets after another one stands for: an element, or else a property. -/
def lookup? (owner index : Value) : Option Value :=
  (elementOf? owner index).orElse fun _ => index.text?.bind fun n => (properties owner).lookup n

/-- The named part of a value. -/
def partOf (owner : Value) (n : String) : Slot :=
  match owner.entries?.bind fun entries => Value.field? entries n with
  | some v => .value v
  | none => .missing (noPart owner n)

/-- The values that a value is gone through by. -/
def elements (v : Value) : Except RenderFault (List Value) :=
  match v.elements? with
  | some items => .ok items
  | none => .error (.unfit ("'" ++ v.kindName ++ "' object is not iterable"))

/-- The value of an expression in a scope. -/
def eval (scope : Scope) : Expr → Except RenderFault Slot
  | name n =>
    match scope.lookup n with
    | some slot => .ok slot
    | none => .ok (.missing (Quoted.text n ++ " is undefined"))
  | text s => .ok (.value (.text s))
  | part e n =>
    match eval scope e with
    | .ok (.value v) => .ok (partOf v n)
    | .ok (.missing message) => .error (.missing message)
    | .error e => .error e
  | element e index =>
    match eval scope e, eval scope index with
    | .ok (.value v), .ok (.value i) =>
      match lookup? v i with
      | some x => .ok (.value x)
      | none => .ok (.missing (noElement v i))
    | .error e, _ => .error e
    | .ok (.missing message), _ => .error (.missing message)
    | _, .error e => .error e
    | _, .ok (.missing message) => .error (.missing message)
  | script e =>
    match eval scope e with
    | .ok (.value v) =>
      match Script.literal v with
      | .ok s => .ok (.value (.text s))
      | .error e => .error (.unfit e.message)
    | .ok (.missing _) => .error (.unfit "what is missing has no literal")
    | .error e => .error e
  | commas e =>
    match eval scope e with
    | .ok slot =>
      match slot.get with
      | .ok v => (elements v).map fun items => .value (.text (commaList (items.map Value.display)))
      | .error e => .error e
    | .error e => .error e
  | append a b =>
    match eval scope a, eval scope b with
    | .ok first, .ok second =>
      match first.get, second.get with
      | .ok x, .ok y => .ok (.value (.text (x.display ++ y.display)))
      | .error e, _ => .error e
      | _, .error e => .error e
    | .error e, _ => .error e
    | _, .error e => .error e
  | either a b =>
    match eval scope a with
    | .ok slot =>
      match slot.get with
      | .ok v => if v.truthy then .ok (.value v) else eval scope b
      | .error e => .error e
    | .error e => .error e

/-- The value of an expression, which has to be there. -/
def require (scope : Scope) (e : Expr) : Except RenderFault Value :=
  match e.eval scope with
  | .ok slot => slot.get
  | .error e => .error e

end Expr

/-! ## Templates -/

namespace Template

/-- One text after the other, or the first fault. -/
def appendText (a b : Except RenderFault String) : Except RenderFault String :=
  match a, b with
  | .ok x, .ok y => .ok (x ++ y)
  | .error e, _ => .error e
  | _, .error e => .error e

/-- The scope for an item at a place. -/
def itemScope (scope : Scope) (item : String) (i : Nat) (v : Value) : Scope :=
  (item, .value v) :: ("loop", .value (Value.record [("index0", .int i)])) :: scope

/-- The texts of a part for the items of a list, the first of which is at the place `i`. -/
def renderEach (render : Nat → Value → Except RenderFault String) :
    Nat → List Value → Except RenderFault String
  | _, [] => .ok ""
  | i, v :: rest => appendText (render i v) (renderEach render (i + 1) rest)

/-- The variables of a part that is given its own, with what they stand for. What is missing stays
missing. -/
def argumentScope (scope : Scope) : List (String × Expr) → Except RenderFault Scope
  | [] => .ok []
  | (n, e) :: rest =>
    match e.eval scope, argumentScope scope rest with
    | .ok slot, .ok others => .ok ((n, slot) :: others)
    | .error e, _ => .error e
    | _, .error e => .error e

/-- The text of a template in a scope. -/
def render : Template → Scope → Except RenderFault String
  | nothing, _ => .ok ""
  | text s, _ => .ok s
  | hole e, scope => (e.require scope).map Value.display
  | both a b, scope => appendText (a.render scope) (b.render scope)
  | choose test yes no, scope =>
    match test.require scope with
    | .ok v => if v.truthy then yes.render scope else no.render scope
    | .error e => .error e
  | each item source body, scope =>
    match source.require scope with
    | .ok v =>
      match Expr.elements v with
      | .ok items => renderEach (fun i v => body.render (itemScope scope item i v)) 0 items
      | .error e => .error e
    | .error e => .error e
  | bind n e body, scope =>
    match e.eval scope with
    | .ok slot => body.render ((n, slot) :: scope)
    | .error e => .error e
  | within arguments body, scope =>
    match argumentScope scope arguments with
    | .ok inner => body.render inner
    | .error e => .error e

end Template

end Scaffold
