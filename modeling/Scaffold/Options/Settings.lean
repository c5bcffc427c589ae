import Scaffold.Options.Basic
import Scaffold.Tree.Path

/-!
# Settings

The options of a run together with where it reads and writes, and how all of it is taken from the
environment. A variable that is empty counts as not set.
-/

namespace Scaffold

/-! ## The settings -/

/-- The settings of a run: the project to write into, the definition to read, whether to write at
all, whether to report in detail, and the options where the definition gives none. -/
structure Settings where
  projectRoot : Option Path := none
  definitionPath : Option Path := none
  dryRun : Bool := false
  verbose : Bool := false
  options : Options := {}
  deriving DecidableEq, Repr

/-- The variables of an environment with their values. -/
abbrev Environment := List (String × String)

namespace Environment

/-- The value of a variable that is set and not empty. -/
def get? (env : Environment) (name : String) : Option String :=
  (env.lookup name).filter (!·.isEmpty)

/-- The variables that are looked at. -/
def names : List String := [
  "TOTIGEN_PROJECT_ROOT", "TOTIGEN_DEFINITION", "TOTIGEN_DRY_RUN", "TOTIGEN_VERBOSE",
  "TOTIGEN_STORE_NAME", "TOTIGEN_ROLES", "TOTIGEN_ENABLE_AUTH", "TOTIGEN_ENABLE_AUTH_VIEWS",
  "TOTIGEN_ENABLE_ADMIN", "TOTIGEN_ENABLE_LANDING", "TOTIGEN_ACTIVITY_LOGGING"]

/-- The words that switch something on. -/
def onWords : List String := ["1", "true", "yes", "on"]

/-- A variable that switches something on or off. -/
def flag? (env : Environment) (name : String) : Option Bool :=
  (env.get? name).map fun s => onWords.contains (Text.lower (Text.trim s))

/-- The path in a variable. -/
def path? (env : Environment) (name : String) : Option Path := (env.get? name).map Path.ofText

/-- The options that an environment asks for. -/
def options (env : Environment) : Options :=
  let flag (name : String) (default : Bool) := (env.flag? name).getD default
  { storeName := ((env.get? "TOTIGEN_STORE_NAME").map (Name.camelOr defaultStoreName)).getD
      defaultStoreName
    roles := ((env.get? "TOTIGEN_ROLES").map fun s =>
      Options.cleanRoles ((Text.partsBetween ',' s.toList).map String.ofList)).getD []
    activityLogging := flag "TOTIGEN_ACTIVITY_LOGGING" false
    auth := flag "TOTIGEN_ENABLE_AUTH" false
    authViews := flag "TOTIGEN_ENABLE_AUTH_VIEWS" false
    admin := flag "TOTIGEN_ENABLE_ADMIN" false
    landing := flag "TOTIGEN_ENABLE_LANDING" true }

end Environment

namespace Settings

/-- The settings that an environment asks for. -/
def ofEnvironment (env : Environment) : Settings where
  projectRoot := env.path? "TOTIGEN_PROJECT_ROOT"
  definitionPath := env.path? "TOTIGEN_DEFINITION"
  dryRun := (env.flag? "TOTIGEN_DRY_RUN").getD false
  verbose := (env.flag? "TOTIGEN_VERBOSE").getD false
  options := env.options

/-- A path in loosely typed input, which may be left out with null. -/
def readPath (steps : List Input.Step) : Value → Input.Checked (Option Path)
  | .null => .ok none
  | .text s => .ok (some (Path.ofText s))
  | _ => Input.fail steps .path

/-- Settings from loosely typed input beside options that have been read. -/
def read (given : List (String × Value)) (options : Options) : Input.Checked Settings :=
  (Input.both (Input.withDefault "project_root" given none readPath)
    (Input.withDefault "dry_run" given false Input.truth)).map fun (root, dryRun) =>
      { projectRoot := root, dryRun := dryRun, options := options }

end Settings

end Scaffold
