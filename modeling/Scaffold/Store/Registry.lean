import Scaffold.Access.Stage
import Scaffold.Store.AuthMessages
import Scaffold.Store.Module

/-!
# The registry of the store

What the store binds: the collections in their order, and whether authentication, activity and roles
are part of it. The keys of the store follow from the registry, and a store with a key that is not
unique is refused.
-/

namespace Scaffold

/-! ## Bindings -/

/-- What the store exposes for a collection. -/
structure Binding where
  names : CollectionNames
  isRoleGated : Bool := false
  deriving DecidableEq, Repr

namespace Binding

/-- The binding of a collection under options. -/
def ofCollection (c : Collection) (o : Options) : Binding :=
  ⟨CollectionNames.ofCollection c o, c.isRoleGated o⟩

/-- The keys that a binding adds to the store, in their order. -/
def exported (b : Binding) : List String :=
  let n := b.names
  [n.pageState, n.searchState, n.loadingState, n.errorState, n.fetchAction, n.fetchMoreAction,
    n.getAction, n.addAction, n.updateAction, n.deleteAction, n.searchAction,
    n.applyFiltersAction, n.changeSortingAction, n.clearSearchAction, n.countAction]
    ++ if b.isRoleGated then [n.assignRolesAction, n.revokeRolesAction] else []

/-- A binding as a value. -/
def toValue (b : Binding) : Value :=
  Value.record [("names", b.names.toValue), ("role_gated", .bool b.isRoleGated)]

end Binding

/-! ## The registry -/

/-- What the store binds. The profile names the collection that holds the user who is signed in. -/
structure Registry where
  store : StoreNames
  bindings : List Binding := []
  auth : Bool := false
  profile : Option CollectionNames := none
  activityLogging : Bool := false
  /-- The roles as a value that is gone through; if it counts as false, roles are not in use. -/
  roles : Value := .list []

namespace Registry

/-- A registry with one more binding. -/
def register (r : Registry) (c : Collection) (o : Options) : Registry :=
  { r with bindings := r.bindings ++ [Binding.ofCollection c o] }

/-- A registry without the binding at a place. -/
def drop (r : Registry) (i : Nat) : Registry := { r with bindings := r.bindings.eraseIdx i }

/-- The collection that holds the user who is signed in: the first one that holds users. -/
def profileOf (all : List Collection) (o : Options) : Option CollectionNames :=
  if o.auth then
    (all.find? fun c => c.isIdentity o.identityNames).map fun c => CollectionNames.ofCollection c o
  else none

/-- The registry of collections under options. -/
def build (all : List Collection) (o : Options) : Registry where
  store := StoreNames.ofOptions o
  bindings := all.map fun c => Binding.ofCollection c o
  auth := o.auth
  profile := profileOf all o
  activityLogging := o.activityLogging
  roles := Value.texts o.roles

/-! ## Keys -/

/-- The keys that every store has. -/
def sessionKeys : List String := ["currentUser", "isAuthenticated", "hasRole"]

/-- The state of authentication. -/
def authKeys : List String :=
  ["authLoading", "authError", "authInitialized", "emailVerificationSent"]
    ++ AuthMessages.operations

/-- The key of the roles. -/
def roleKeys : List String := ["availableRoles"]

/-- The keys of the recorded activity. -/
def activityKeys : List String := ["recentActivity", "watchRecentActivity", "stopRecentActivity"]

/-- All keys of the store, in their order. -/
def exportedNames (r : Registry) : List String :=
  sessionKeys ++ (if r.auth then authKeys else [])
    ++ (if r.roles.truthy then roleKeys else [])
    ++ (if r.activityLogging then activityKeys else [])
    ++ r.bindings.flatMap Binding.exported

/-- The names that come up more than once, each in the place where it comes up again; `seen` holds
the names before. -/
def repeatedAfter (seen reported : List String) : List String → List String
  | [] => []
  | n :: rest =>
    if seen.contains n && !reported.contains n then
      n :: repeatedAfter (n :: seen) (n :: reported) rest
    else repeatedAfter (n :: seen) reported rest

/-- The names that come up more than once. -/
def duplicates (names : List String) : List String := repeatedAfter [] [] names

/-! ## The module -/

/-- The known messages of authentication as a value. -/
def messagesValue : Value :=
  Value.record (AuthMessages.known.map fun (operation, messages) =>
    (operation, Value.record (messages.map fun (code, text) => (code, .text text))))

/-- The values that the store module depends on, under the roles in their order. -/
def values (r : Registry) (roles : List Value) : List (String × Value) := [
  ("store", r.store.toValue),
  ("bindings", .list (r.bindings.map Binding.toValue)),
  ("auth_enabled", .bool r.auth),
  ("profile", (r.profile.map CollectionNames.toValue).getD .null),
  ("activity_logging", .bool r.activityLogging),
  ("roles", .list roles),
  ("auth_messages", messagesValue),
  ("generic_auth_message", .text AuthMessages.generic)]

/-- The store module; all keys of the store have to be different. -/
def render (r : Registry) : Except StageFault Artifact :=
  match duplicates r.exportedNames with
  | [] =>
    match Expr.elements r.roles with
    | .ok roles =>
      (Artifact.ofTemplate r.store.indexPath StoreModule.template (r.values roles)).mapError
        StageFault.render
    | .error f => .error (.render f)
  | repeated => .error (.repeatedKeys repeated)

end Registry

/-! ## The stage -/

namespace Store

/-- The stage of the store. -/
def stage : Stage where
  name := "store"
  shared all o := ((Registry.build all o).render).map fun file => [file]

end Store

end Scaffold
