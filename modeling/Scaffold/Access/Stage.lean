import Scaffold.Access.Actions
import Scaffold.Access.Activity
import Scaffold.Access.Bootstrap
import Scaffold.Access.Paging
import Scaffold.Access.Support
import Scaffold.Stage

/-!
# Data access

The stage that makes the modules of data access: the database, what all collections share, the record
of activity if it is in use, and a module of actions for each collection.
-/

namespace Scaffold

/-! ## Decisions for a collection -/

namespace Collection

/-- Roles guard a collection that holds users when there are roles. -/
def isRoleGated (c : Collection) (o : Options) : Bool :=
  o.hasRoles && c.isIdentity o.identityNames

/-- The field that searches look at where a collection has no text. -/
def fallbackSearchField : String := "name"

/-- The field that searches look at: the first one with text. -/
def searchField (c : Collection) : String :=
  match c.fieldsOf [.text, .email] with
  | f :: _ => f.name
  | [] => fallbackSearchField

/-- A field with its kind, and with its declared type if that was unknown. -/
def fieldSummary (f : Field) : String :=
  let declared := if f.isFallback then ", declared '" ++ f.declared ++ "'" else ""
  f.name ++ " (" ++ f.kind.tag ++ declared ++ ")"

/-- The fields with their kinds in one line. -/
def summary (c : Collection) : String := commaList (c.fields.map fieldSummary)

end Collection

namespace Access

/-! ## Fixed values -/

/-- The number of records on a page where none is asked for. -/
def defaultPageSize : Nat := 10

/-- The source text of the character that comes after all others in searches. -/
def sentinelEscape : String := "\\uf8ff"

/-- The collection that activity is recorded in. -/
def activityCollection : String := "recentActivity"

/-- The number of activities that are followed where none is asked for. -/
def recentLimit : Nat := 50

/-- The operators that filters may use. -/
def filterOperators : List String := [
  "==", "!=", "<", "<=", ">", ">=", "in", "not-in", "array-contains", "array-contains-any"]

/-! ## Files -/

/-- The module that opens the database. -/
def databaseFile (o : Options) : Except RenderFault Artifact :=
  Artifact.ofTemplate Layout.databaseModule DatabaseModule.template [("auth_enabled", .bool o.auth)]

/-- The module that all data access shares. -/
def supportFile (o : Options) : Except RenderFault Artifact :=
  Artifact.ofTemplate (StoreNames.ofOptions o).supportPath SupportModule.template [
    ("activity_logging", .bool o.activityLogging),
    ("roles", Value.texts o.roles),
    ("filter_operators", Value.texts filterOperators)]

/-- The module that records activity. -/
def activityFile (o : Options) : Except RenderFault Artifact :=
  Artifact.ofTemplate (StoreNames.ofOptions o).activityPath ActivityModule.template [
    ("activity_collection", .text activityCollection),
    ("recent_limit", .int recentLimit)]

/-- The values that the actions of a collection depend on. -/
def actionsValues (c : Collection) (o : Options) : List (String × Value) := [
  ("names", (CollectionNames.ofCollection c o).toValue),
  ("field_summary", .text c.summary),
  ("identity", .bool (c.isIdentity o.identityNames)),
  ("role_gated", .bool (c.isRoleGated o)),
  ("activity_logging", .bool o.activityLogging),
  ("page_size", .int defaultPageSize),
  ("search_field", .text c.searchField),
  ("sentinel_escape", .text sentinelEscape),
  ("has_more", .text (Paging.hasMoreExpression Paging.returnedName Paging.pageSizeName))]

/-- The module of actions of a collection. -/
def actionsFile (c : Collection) (o : Options) : Except RenderFault Artifact :=
  Artifact.ofTemplate (CollectionNames.ofCollection c o).actionsPath ActionsModule.template
    (actionsValues c o)

/-! ## The stage -/

/-- The stage of data access. -/
def stage : Stage where
  name := "persistence"
  shared _ o :=
    Stage.files ([databaseFile o, supportFile o]
      ++ if o.activityLogging then [activityFile o] else [])
  forCollection c _ o := Stage.files [actionsFile c o]

end Access

end Scaffold
