import Scaffold.Routing.Route
import Scaffold.Stage

/-!
# The route table

The routes of the generated application in a fixed order: the start, the views for signing in, the
views for administration, two views for each collection, and a route for everything else. The paths of
a table are all different, and so are its names.
-/

namespace Scaffold

/-! ## Views -/

/-- Who a view is for. -/
inductive Audience where
  | everyone
  | visitors
  | users
  deriving DecidableEq, Repr

/-- A view with the route that leads to it. -/
structure RoutedView where
  path : String
  name : String
  file : String
  title : String
  audience : Audience := .users
  deriving DecidableEq, Repr

namespace RouteTable

/-- The path of the view for signing in. -/
def loginPath : String := "/login"

/-- The path of the view for users without a role. -/
def unauthorizedPath : String := "/unauthorized"

/-- The path of the start. -/
def startPath : String := "/"

/-- The path that matches everything. -/
def catchAllPath : String := "/:pathMatch(.*)*"

/-- The views for signing in. -/
def authViews : List RoutedView := [
  ⟨"/login", "Login", "auth/LoginView.vue", "Sign in", .visitors⟩,
  ⟨"/register", "Register", "auth/RegisterView.vue", "Create an account", .visitors⟩,
  ⟨"/forgot-password", "ForgotPassword", "auth/ForgotPasswordView.vue", "Forgot password", .visitors⟩,
  ⟨"/reset-password", "ResetPassword", "auth/ResetPasswordView.vue", "Reset password", .visitors⟩,
  ⟨"/verify-email", "VerifyEmail", "auth/VerifyEmailView.vue", "Verify your email", .users⟩,
  ⟨"/unauthorized", "Unauthorized", "auth/UnauthorizedView.vue", "Access denied", .everyone⟩,
  ⟨"/account", "Account", "auth/AccountView.vue", "Account", .users⟩,
  ⟨"/settings", "Settings", "auth/SettingsView.vue", "Settings", .users⟩]

/-- The views for administration. -/
def adminViews : List RoutedView := [
  ⟨"/admin/dashboard", "AdminDashboard", "admin/DashboardView.vue", "Admin dashboard", .users⟩,
  ⟨"/admin/users", "AdminUsers", "admin/UsersView.vue", "Manage users", .users⟩]

/-! ## Remarks for the guards -/

/-- The remark on routes for users; without the views for signing in there is none. -/
def userRemarks (o : Options) : List (String × Value) :=
  if o.authRoutes then [("requiresAuth", .bool true)] else []

/-- The remark on routes for an audience. -/
def audienceRemarks (o : Options) : Audience → List (String × Value)
  | .everyone => []
  | .visitors => [("guestOnly", .bool true)]
  | .users => userRemarks o

/-- The remarks on routes for administration. -/
def adminRemarks (o : Options) : List (String × Value) :=
  userRemarks o ++ if o.hasRoles then [("requiresAdmin", .bool true)] else []

end RouteTable

/-! ## The table -/

/-- The routes and the views that they lead to besides those of collections. -/
structure RouteTable where
  routes : List Route
  placeholders : List PlaceholderView
  /-- Routes for users are guarded. -/
  isProtected : Bool
  /-- Where users without a role are sent. -/
  deniedPath : String

namespace RouteTable

/-- A route to a view, with the view. -/
def viewRoute (path name : String) (v : PlaceholderView) (remarks : List (String × Value)) :
    Route × PlaceholderView :=
  ({ path := path, name := some name, view := some v.importPath, remarks := remarks }, v)

/-- The start: a public page, or a page for users. -/
def startRoute (o : Options) : Route × PlaceholderView :=
  if o.landing then
    viewRoute startPath "Landing" ⟨"LandingPage.vue", "Welcome", "Public landing page."⟩ []
  else viewRoute startPath "Home" ⟨"HomeView.vue", "Home", ""⟩ (userRemarks o)

/-- The routes to views besides those of collections, with the views. -/
def viewRoutes (o : Options) : List (Route × PlaceholderView) :=
  let routed (v : RoutedView) (remarks : List (String × Value)) :=
    viewRoute v.path v.name ⟨v.file, v.title, ""⟩ remarks
  [startRoute o]
    ++ (if o.authRoutes then authViews.map fun v => routed v (audienceRemarks o v.audience) else [])
    ++ (if o.admin then adminViews.map fun v => routed v (adminRemarks o) else [])

/-- The routes to the views of a collection. -/
def collectionRoutes (o : Options) (c : Collection) : List Route :=
  let n := CollectionNames.ofCollection c o
  [{ path := n.createRoutePath, name := some n.createRouteName, view := some n.createViewImport
     remarks := userRemarks o },
    { path := n.editRoutePath, name := some n.editRouteName, view := some n.editViewImport
      passesParts := true, remarks := userRemarks o }]

/-- The route for everything else. -/
def catchAllRoute : Route := { path := catchAllPath, redirect := some startPath }

/-- The table of collections under options, before its routes are compared. -/
def assemble (all : List Collection) (o : Options) : RouteTable :=
  let views := viewRoutes o
  { routes := views.map Prod.fst ++ all.flatMap (collectionRoutes o) ++ [catchAllRoute]
    placeholders := views.map Prod.snd
    isProtected := o.authRoutes
    deniedPath := if o.authRoutes then unauthorizedPath else startPath }

/-- Where visitors are sent from routes for users. -/
def login? (t : RouteTable) : Option String := if t.isProtected then some loginPath else none

/-! ## Uniqueness -/

/-- The paths of the routes. -/
def paths (t : RouteTable) : List String := t.routes.map Route.path

/-- The names of the routes that have one. -/
def names (t : RouteTable) : List String :=
  t.routes.filterMap fun r => r.name.filter (!·.isEmpty)

/-- The table of collections under options. Its paths and its names have to be different. -/
def ofCollections (all : List Collection) (o : Options) : Except StageFault RouteTable :=
  let t := assemble all o
  match Text.firstRepeated [] t.paths, Text.firstRepeated [] t.names with
  | some path, _ => .error (.repeatedRoute "path" path)
  | none, some name => .error (.repeatedRoute "name" name)
  | none, none => .ok t

end RouteTable

end Scaffold
