import Scaffold.Input.Fault
import Scaffold.Name.Layout
import Scaffold.Script.Literal

/-!
# Routes

The entries of a route table, the views that they lead to, and how both are read from loosely typed
input.
-/

namespace Scaffold

/-! ## Routes -/

/-- A route: its path and name, the view it shows or the path it leads on to, whether parts of the path
are handed to the view, and remarks for the guards. -/
structure Route where
  path : String
  name : Option String := none
  view : Option String := none
  redirect : Option String := none
  passesParts : Bool := false
  remarks : List (String × Value) := []

namespace Route

/-! ### Text -/

/-- A line for a part of a route, if the part is there and not empty. -/
def partLine (margin before : String) (part : Option String) (after : String) : List String :=
  match part with
  | some s => if s.isEmpty then [] else [margin ++ before ++ Script.quote s ++ after]
  | none => []

/-- The remarks with commas between them. -/
def remarkEntries : List (String × Value) → Except Json.Unwritable (List String)
  | [] => .ok []
  | (key, v) :: rest =>
    match Script.literal v with
    | .error e => .error e
    | .ok literal => (remarkEntries rest).map ((key ++ ": " ++ literal) :: ·)

/-- The line for the remarks, if there are any. -/
def remarkLine (margin : String) (remarks : List (String × Value)) :
    Except Json.Unwritable (List String) :=
  if remarks.isEmpty then .ok []
  else
    (remarkEntries remarks).map fun entries =>
      [margin ++ "meta: \x7b " ++ commaList entries ++ " \x7d,"]

/-- A route as an entry of the route table. -/
def render (r : Route) (indent : String) : Except Json.Unwritable String :=
  let margin := indent ++ indent
  (remarkLine margin r.remarks).map fun remarks =>
    "\n".intercalate (
      [indent ++ "\x7b", margin ++ "path: " ++ Script.quote r.path ++ ","]
        ++ partLine margin "name: " r.name ","
        ++ partLine margin "component: () => import(" r.view "),"
        ++ partLine margin "redirect: " r.redirect ","
        ++ (if r.passesParts then [margin ++ "props: true,"] else [])
        ++ remarks
        ++ [indent ++ "\x7d,"])

/-- The space in front of a route in the router. -/
def defaultIndent : String := "  "

/-! ### Input -/

/-- The key of a remark. -/
def readKey (key : Value) : Input.Checked String :=
  Input.text [.field "meta", .key key, .field "[key]"] key

/-- Gives a key a remark, in the place of an earlier one. -/
def putRemark (key : String) (v : Value) : List (String × Value) → List (String × Value)
  | [] => [(key, v)]
  | (k, w) :: rest => if k == key then (k, v) :: rest else (k, w) :: putRemark key v rest

/-- Remarks from a mapping with textual keys. -/
def readRemarks (steps : List Input.Step) (v : Value) : Input.Checked (List (String × Value)) :=
  match v.entries? with
  | none => Input.fail steps .mapping
  | some entries =>
    (Input.every (entries.map fun e => (readKey e.1).map fun key => (key, e.2))).map fun remarks =>
      remarks.foldl (fun acc e => putRemark e.1 e.2 acc) []

/-- The route with parts that are given by name. -/
def read (given : List (String × Value)) : Input.Checked Route :=
  let part (name : String) := Input.withDefault name given none Input.optionalText
  (Input.both (Input.required "path" given Input.text)
    (Input.both (part "name")
      (Input.both (part "component")
        (Input.both (part "redirect")
          (Input.both (Input.withDefault "props" given false Input.truth)
            (Input.withDefault "meta" given [] readRemarks)))))).map
    fun (path, name, view, redirect, passesParts, remarks) =>
      { path := path, name := name, view := view, redirect := redirect
        passesParts := passesParts, remarks := remarks }

end Route

/-! ## Placeholder views -/

/-- A view that a route leads to and that no collection brings. -/
structure PlaceholderView where
  file : String
  title : String
  description : String := ""
  deriving DecidableEq, Repr

namespace PlaceholderView

/-- The path of the view. -/
def path (v : PlaceholderView) : String := Layout.viewsRoot ++ "/" ++ v.file

/-- The view as the router imports it. -/
def importPath (v : PlaceholderView) : String := "@/views/" ++ v.file

/-- The view with parts that are given by name. -/
def read (given : List (String × Value)) : Input.Checked PlaceholderView :=
  (Input.both (Input.required "file" given Input.text)
    (Input.both (Input.required "title" given Input.text)
      (Input.withDefault "description" given "" Input.text))).map fun (file, title, description) =>
        ⟨file, title, description⟩

end PlaceholderView

end Scaffold
