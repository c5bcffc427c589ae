import Scaffold.Collection.Basic
import Scaffold.Input.Fault
import Scaffold.Text.Distinct
import Scaffold.Text.Parts

/-!
# Options

The decisions that shape the generated files, and how they are read from loosely typed input: part
by part, or from the answers of a definition file.
-/

namespace Scaffold

/-! ## The options -/

/-- The name of the store where none is given. -/
def defaultStoreName : String := "appStore"

/-- The decisions that shape the generated files. -/
structure Options where
  storeName : String := defaultStoreName
  roles : List String := []
  activityLogging : Bool := false
  auth : Bool := false
  authViews : Bool := false
  admin : Bool := false
  landing : Bool := true
  /-- The names of collections that hold users, each once. -/
  identityNames : List String := Identity.defaultNames
  deriving DecidableEq, Repr

namespace Options

/-- Roles are in use when there are any. -/
def hasRoles (o : Options) : Bool := !o.roles.isEmpty

/-- The views for signing in have routes only when there is something to sign in to. -/
def authRoutes (o : Options) : Bool := o.auth && o.authViews

/-! ## Roles -/

/-- The roles that entries name: without blanks around them, blank ones left out, each once. -/
def cleanRoles (entries : List String) : List String :=
  Text.distinct ((entries.map Text.trim).filter (!·.isEmpty))

/-- The entries of roles: those of a text with commas, or whatever a value is gone through by. Null
has none. -/
def roleEntries? : Value → Option (List Value)
  | .null => some []
  | .text s => some ((Text.partsBetween ',' s.toList).map fun part => .text (String.ofList part))
  | v => v.elements?

/-! ## Reading -/

/-- Why options cannot be read: parts are wrong, roles or identity names are no list, or the answers
are no mapping. -/
inductive Fault where
  | invalid (faults : List Input.Fault)
  | notAList
  | notAMapping

/-- A store name in its spelling. -/
def readStoreName (steps : List Input.Step) (v : Value) : Input.Checked String :=
  (Input.text steps v).map (Name.camelOr defaultStoreName)

/-- The roles that entries name. -/
def readRoles (steps : List Input.Step) (entries : List Value) : Input.Checked (List String) :=
  if Value.areShown entries then .ok (cleanRoles (entries.map Value.display))
  else Input.fail steps .longNumber

/-- Identity names, each once. -/
def readIdentityNames (steps : List Input.Step) (v : Value) : Input.Checked (List String) :=
  (Input.textCollection steps v).map Text.distinct

/-- The options that are given by name; names that are no option are passed over. -/
def read (given : List (String × Value)) : Except Fault Options :=
  match roleEntries? ((given.lookup "roles").getD (.tuple [])) with
  | none => .error .notAList
  | some entries =>
    let flag (name : String) (default : Bool) := Input.withDefault name given default Input.truth
    let checked :=
      Input.both (Input.withDefault "store_name" given defaultStoreName readStoreName)
        (Input.both (readRoles [.field "roles"] entries)
          (Input.both (flag "activity_logging_enabled" false)
            (Input.both (flag "auth_enabled" false)
              (Input.both (flag "auth_views_enabled" false)
                (Input.both (flag "admin_enabled" false)
                  (Input.both (flag "landing_enabled" true)
                    (Input.withDefault "identity_collections" given Identity.defaultNames
                      readIdentityNames)))))))
    match checked with
    | .error faults => .error (.invalid faults)
    | .ok (storeName, roles, activityLogging, auth, authViews, admin, landing, identityNames) =>
      .ok {
        storeName := storeName
        roles := roles
        activityLogging := activityLogging
        auth := auth
        authViews := authViews
        admin := admin
        landing := landing
        identityNames := identityNames }

/-! ## Answers -/

/-- The values of a set, each once; what cannot be a key cannot be in it. -/
def setItems? (v : Value) : Option (List Value) :=
  match v.elements? with
  | some items =>
    if Value.areKeys items then
      some ((Value.mapping (items.map fun i => (i, Value.null))).map Prod.fst)
    else none
  | none => none

/-- The options that the entries of an answers mapping ask for. Roles apply only when both
authentication and roles are on, and the views for signing in only when authentication is. -/
def ofAnswerEntries (answers : List (Value × Value)) : Except Fault Options :=
  let answer (key : String) := (Value.field? answers key).getD .null
  let isOn (key : String) (default : Bool) :=
    ((Value.field? answers key).map Value.truthy).getD default
  let auth := isOn "enableAuth" false
  let roles := if auth && isOn "enableRoles" false then answer "roles" else .tuple []
  let given := [
    ("store_name", if (answer "storeName").truthy then answer "storeName" else .text defaultStoreName),
    ("roles", roles),
    ("activity_logging_enabled", .bool (isOn "addActivityLogging" false)),
    ("auth_enabled", .bool auth),
    ("auth_views_enabled", .bool (auth && isOn "enableAuthViews" auth)),
    ("admin_enabled", .bool (isOn "enableAdmin" false)),
    ("landing_enabled", .bool (isOn "enableLanding" true))]
  if (answer "identityCollections").truthy then
    match setItems? (answer "identityCollections") with
    | some items => read (given ++ [("identity_collections", .set items)])
    | none => .error .notAList
  else read given

/-- The options that answers ask for. Answers that count as false ask for nothing. -/
def ofAnswers (answers : Value) : Except Fault Options :=
  match answers.entries? with
  | some entries => ofAnswerEntries entries
  | none => if answers.truthy then .error .notAMapping else ofAnswerEntries []

end Options

end Scaffold
