import Scaffold.Access.Actions
import Scaffold.Access.Activity
import Scaffold.Access.Bootstrap
import Scaffold.Access.Support
import Scaffold.Form.CodecsModule
import Scaffold.Form.Views
import Scaffold.Routing.Guards
import Scaffold.Routing.Module
import Scaffold.Routing.Placeholder
import Scaffold.Store.Module
import Scaffold.Template.Render
import Scaffold.Tree.Path
import Scaffold.Validation.Module

/-!
# The library of templates

All templates by the path of the file that each one shapes, below the folder of its part of the
project.
-/

namespace Scaffold.Library

/-- The parts that views share, which are no text by themselves. -/
def sharedViewParts : Template := Template.lines [""]

/-- The templates by their paths. -/
def templates : List (List String × Template) := [
  (["firebase.js"], DatabaseModule.template),
  (["stores", "collectionSupport.js"], SupportModule.template),
  (["stores", "activityLogger.js"], ActivityModule.template),
  (["stores", "collectionActions.js"], ActionsModule.template),
  (["stores", "index.js"], StoreModule.template),
  (["validators", "validator.js"], ValidatorModule.template),
  (["views", "Create.vue"], FormViews.create),
  (["views", "Edit.vue"], FormViews.edit),
  (["views", "Placeholder.vue"], PlaceholderModule.template),
  (["views", "formCodecs.js"], CodecsModule.template),
  (["views", "macros"], sharedViewParts),
  (["router", "index.js"], RouterModule.template),
  (["router", "authGuard.js"], GuardModules.authentication),
  (["router", "roleGuard.js"], GuardModules.roles)]

/-- The template with a path. Empty components and single dots name no step. -/
def find? (path : String) : Option Template :=
  templates.lookup (Path.steps path.toList)

end Scaffold.Library
