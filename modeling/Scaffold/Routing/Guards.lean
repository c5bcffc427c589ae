import Scaffold.Template.Basic

/-!
# The guards

The modules with the guards of routes: one asks who is signed in, one asks for roles.
-/

namespace Scaffold.GuardModules

open Template

/-- The guard that sends visitors to the place for signing in. -/
def authentication : Template := sequence [
  row [text "import \x7b ", value ["store", "hook"], text " \x7d from '",
    value ["store", "import_path"], text "';"],
  lines [
    "",
    "export default async function authGuard(to) \x7b"],
  row [text "  const store = ", value ["store", "hook"], text "();"],
  lines ["  await store.initSession();"],
  when (.path ["login_path"]) [
    lines [
      "",
      "  if (to.matched.some((record) => record.meta.requiresAuth) && !store.isAuthenticated) \x7b"],
    row [text "    return \x7b path: ", script ["login_path"],
      text ", query: \x7b redirect: to.fullPath \x7d \x7d;"],
    lines [
      "  \x7d",
      "  if (to.matched.some((record) => record.meta.guestOnly) && store.isAuthenticated) \x7b",
      "    return '/';",
      "  \x7d"]],
  lines [
    "  return true;",
    "\x7d"]]

/-- The guard that turns away users without a role. -/
def roles : Template := sequence [
  row [text "import \x7b ", value ["store", "hook"], text " \x7d from '",
    value ["store", "import_path"], text "';"],
  lines [
    "",
    "export default function roleGuard(to) \x7b"],
  row [text "  const store = ", value ["store", "hook"], text "();"],
  lines [
    "",
    "  if (to.matched.some((record) => record.meta.requiresAdmin) && !store.hasRole('admin')) \x7b"],
  row [text "    return ", script ["denied_path"], text ";"],
  lines [
    "  \x7d",
    "  const required = to.meta.roles;",
    "  if (Array.isArray(required) && required.length > 0 && !required.some((role) => store.hasRole(role))) \x7b"],
  row [text "    return ", script ["denied_path"], text ";"],
  lines [
    "  \x7d",
    "  return true;",
    "\x7d"]]

end Scaffold.GuardModules
