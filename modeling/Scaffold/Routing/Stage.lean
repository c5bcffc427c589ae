import Scaffold.Routing.Guards
import Scaffold.Routing.Module
import Scaffold.Routing.Placeholder
import Scaffold.Routing.Table

/-!
# Routing

The stage that makes the router, its guards, and the views that routes lead to besides those of
collections.
-/

namespace Scaffold.Routing

/-- The routes as entries of the route table. -/
def routeTexts : List Route → Except RenderFault (List Value)
  | [] => .ok []
  | r :: rest =>
    match r.render Route.defaultIndent with
    | .ok text => (routeTexts rest).map (.text text :: ·)
    | .error e => .error (.unfit e.message)

/-- The router. -/
def routerFile (t : RouteTable) (o : Options) : Except RenderFault Artifact :=
  match routeTexts t.routes with
  | .error e => .error e
  | .ok routes =>
    Artifact.ofTemplate Layout.routerModule RouterModule.template [
      ("routes", .list routes),
      ("auth_guard", .bool o.auth),
      ("role_guard", .bool o.hasRoles)]

/-- The guard that asks who is signed in. -/
def authGuardFile (t : RouteTable) (o : Options) : Except RenderFault Artifact :=
  Artifact.ofTemplate (Layout.guardsRoot ++ "/authGuard.js") GuardModules.authentication [
    ("store", (StoreNames.ofOptions o).toValue),
    ("login_path", (t.login?.map Value.text).getD .null)]

/-- The guard that asks for roles. -/
def roleGuardFile (t : RouteTable) (o : Options) : Except RenderFault Artifact :=
  Artifact.ofTemplate (Layout.guardsRoot ++ "/roleGuard.js") GuardModules.roles [
    ("store", (StoreNames.ofOptions o).toValue),
    ("denied_path", .text t.deniedPath)]

/-- A view that a route leads to. -/
def placeholderFile (v : PlaceholderView) : Except RenderFault Artifact :=
  Artifact.ofTemplate v.path PlaceholderModule.template [
    ("title", .text v.title),
    ("description", .text v.description)]

/-- The stage of routing. -/
def stage : Stage where
  name := "routes"
  shared all o :=
    match RouteTable.ofCollections all o with
    | .error e => .error e
    | .ok t =>
      Stage.files ([routerFile t o]
        ++ (if o.auth then [authGuardFile t o] else [])
        ++ (if o.hasRoles then [roleGuardFile t o] else [])
        ++ t.placeholders.map placeholderFile)

end Scaffold.Routing
