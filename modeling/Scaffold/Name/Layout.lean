import Scaffold.Options.Basic

/-!
# Layout of the generated files

Where generated files go and what they call each other. Every path, function, route and key that one
file shares with another is spelled out here once, so that no file can disagree with another about a
name.
-/

namespace Scaffold

/-! ## Fixed places -/

namespace Layout

/-- The folder of views. -/
def viewsRoot : String := "src/views"

/-- The folder of validators. -/
def validatorsRoot : String := "src/validators"

/-- The folder of stores. -/
def storesRoot : String := "src/stores"

/-- The router. -/
def routerModule : String := "src/router/index.js"

/-- The folder of the guards of routes. -/
def guardsRoot : String := "src/router/guards"

/-- The module that opens the database. -/
def databaseModule : String := "src/firebase.js"

/-- The module that converts form texts. -/
def codecsModule : String := "src/utils/formCodecs.js"

end Layout

/-! ## The store -/

/-- The names of the store that all collections share. -/
structure StoreNames where
  storeName : String
  deriving DecidableEq, Repr

namespace StoreNames

/-- The names that options ask for. -/
def ofOptions (o : Options) : StoreNames := ⟨Name.camelOr defaultStoreName o.storeName⟩

variable (s : StoreNames)

/-- The folder of the store. -/
def folder : String := Layout.storesRoot ++ "/" ++ s.storeName

/-- The module of the store. -/
def indexPath : String := s.folder ++ "/index.js"

/-- The module that all data access shares. -/
def supportPath : String := s.folder ++ "/collectionSupport.js"

/-- The module that records activity. -/
def activityPath : String := s.folder ++ "/activityLogger.js"

/-- The function that gives access to the store. -/
def hook : String := "use" ++ Name.pascal s.storeName

/-- The store as other modules import it. -/
def importPath : String := "@/stores/" ++ s.storeName

/-- The names by the keys that templates know them by. -/
def entries : List (String × String) := [
  ("store_name", s.storeName),
  ("store_dir", s.folder),
  ("index_path", s.indexPath),
  ("support_path", s.supportPath),
  ("activity_logger_path", s.activityPath),
  ("hook", s.hook),
  ("import_path", s.importPath)]

/-- The names as a value. -/
def toValue : Value := Value.record (s.entries.map fun e => (e.1, .text e.2))

end StoreNames

/-! ## A collection -/

/-- The names that a collection gives its parts of the generated files. -/
structure CollectionNames where
  camel : String
  pascal : String
  store : StoreNames
  deriving DecidableEq, Repr

namespace CollectionNames

/-- The names of a collection under options. -/
def ofCollection (c : Collection) (o : Options) : CollectionNames :=
  ⟨c.camelName, c.pascalName, StoreNames.ofOptions o⟩

variable (n : CollectionNames)

/-- The name in capitals. -/
def constant : String := Name.constant n.camel

/-! ### Data access -/

/-- The module of data access. -/
def actionsPath : String := n.store.folder ++ "/actions/" ++ n.camel ++ ".js"

/-- The module of data access as the store imports it. -/
def actionsImport : String := "./actions/" ++ n.camel ++ ".js"

/-- The function that makes the actions. -/
def actionsFactory : String := "create" ++ n.pascal ++ "Actions"

/-! ### Validation -/

/-- The function that validates a record. -/
def validatorFunction : String := "validate" ++ n.pascal

/-- The module of the validator. -/
def validatorPath : String := Layout.validatorsRoot ++ "/" ++ n.validatorFunction ++ ".js"

/-- The module of the validator as views import it. -/
def validatorImport : String := "@/validators/" ++ n.validatorFunction

/-! ### Views -/

/-- The folder of the views. -/
def viewsFolder : String := Layout.viewsRoot ++ "/" ++ n.camel

/-- The view that creates a record. -/
def createViewPath : String := n.viewsFolder ++ "/Create.vue"

/-- The view that edits a record. -/
def editViewPath : String := n.viewsFolder ++ "/Edit.vue"

/-- The view that creates a record, as the router imports it. -/
def createViewImport : String := "@/views/" ++ n.camel ++ "/Create.vue"

/-- The view that edits a record, as the router imports it. -/
def editViewImport : String := "@/views/" ++ n.camel ++ "/Edit.vue"

/-! ### Routes -/

/-- The path of the route to the view that creates a record. -/
def createRoutePath : String := "/" ++ n.camel ++ "/create"

/-- The path of the route to the view that edits a record. -/
def editRoutePath : String := "/" ++ n.camel ++ "/edit/:id"

/-- The name of the route to the view that creates a record. -/
def createRouteName : String := n.pascal ++ "Create"

/-- The name of the route to the view that edits a record. -/
def editRouteName : String := n.pascal ++ "Edit"

/-! ### Keys of the store -/

/-- The function that binds the collection into the store. -/
def bindingFunction : String := "bind" ++ n.pascal

/-- The page in view. -/
def pageState : String := n.camel ++ "Page"

/-- The search in view. -/
def searchState : String := n.camel ++ "Search"

/-- Whether something is being loaded. -/
def loadingState : String := n.camel ++ "Loading"

/-- The last error. -/
def errorState : String := n.camel ++ "Error"

/-- Fetches a page. -/
def fetchAction : String := "fetch" ++ n.pascal

/-- Fetches the page after the one in view. -/
def fetchMoreAction : String := "fetchMore" ++ n.pascal

/-- Reads a record. -/
def getAction : String := "get" ++ n.pascal

/-- Adds a record. -/
def addAction : String := "add" ++ n.pascal

/-- Changes a record. -/
def updateAction : String := "update" ++ n.pascal

/-- Deletes a record. -/
def deleteAction : String := "delete" ++ n.pascal

/-- Searches for records. -/
def searchAction : String := "search" ++ n.pascal

/-- Fetches a page of the records that pass filters. -/
def applyFiltersAction : String := "apply" ++ n.pascal ++ "Filters"

/-- Fetches a page in another order. -/
def changeSortingAction : String := "change" ++ n.pascal ++ "Sorting"

/-- Forgets the search in view. -/
def clearSearchAction : String := "clear" ++ n.pascal ++ "Search"

/-- Counts records. -/
def countAction : String := "count" ++ n.pascal

/-- Gives a user roles. -/
def assignRolesAction : String := "assign" ++ n.pascal ++ "Roles"

/-- Takes roles from a user. -/
def revokeRolesAction : String := "revoke" ++ n.pascal ++ "Roles"

/-! ### All names -/

/-- The names by the keys that templates know them by. -/
def entries : List (String × String) := [
  ("canonical", n.camel),
  ("pascal", n.pascal),
  ("constant", n.constant),
  ("actions_path", n.actionsPath),
  ("actions_import", n.actionsImport),
  ("actions_factory", n.actionsFactory),
  ("validator_path", n.validatorPath),
  ("validator_import", n.validatorImport),
  ("validator_function", n.validatorFunction),
  ("views_dir", n.viewsFolder),
  ("create_view_path", n.createViewPath),
  ("edit_view_path", n.editViewPath),
  ("create_view_import", n.createViewImport),
  ("edit_view_import", n.editViewImport),
  ("create_route_path", n.createRoutePath),
  ("edit_route_path", n.editRoutePath),
  ("create_route_name", n.createRouteName),
  ("edit_route_name", n.editRouteName),
  ("binding_function", n.bindingFunction),
  ("page_state", n.pageState),
  ("search_state", n.searchState),
  ("loading_state", n.loadingState),
  ("error_state", n.errorState),
  ("fetch_action", n.fetchAction),
  ("fetch_more_action", n.fetchMoreAction),
  ("get_action", n.getAction),
  ("add_action", n.addAction),
  ("update_action", n.updateAction),
  ("delete_action", n.deleteAction),
  ("search_action", n.searchAction),
  ("apply_filters_action", n.applyFiltersAction),
  ("change_sorting_action", n.changeSortingAction),
  ("clear_search_action", n.clearSearchAction),
  ("count_action", n.countAction),
  ("assign_roles_action", n.assignRolesAction),
  ("revoke_roles_action", n.revokeRolesAction)]

/-- The names as a value. -/
def toValue : Value := Value.record (n.entries.map fun e => (e.1, .text e.2))

end CollectionNames

end Scaffold
