import Scaffold.Template.Basic

/-!
# The router module

The module with the routes, and the guards that are asked before a route is entered.
-/

namespace Scaffold.RouterModule

open Template

/-- The text of the module. -/
def template : Template := sequence [
  lines ["import \x7b createRouter, createWebHistory \x7d from 'vue-router';"],
  when (.path ["auth_guard"]) [
    lines ["import authGuard from './guards/authGuard.js';"]],
  when (.path ["role_guard"]) [
    lines ["import roleGuard from './guards/roleGuard.js';"]],
  lines [
    "",
    "const routes = ["],
  forEach "route" (.path ["routes"]) [
    row [value ["route"]]],
  lines [
    "];",
    "",
    "const router = createRouter(\x7b",
    "  history: createWebHistory(import.meta.env.BASE_URL),",
    "  routes,",
    "\x7d);"],
  when (.either (.path ["auth_guard"]) (.path ["role_guard"])) [
    lines [""]],
  when (.path ["auth_guard"]) [
    lines ["router.beforeEach(authGuard);"]],
  when (.path ["role_guard"]) [
    lines ["router.beforeEach(roleGuard);"]],
  lines [
    "",
    "export default router;"]]

end Scaffold.RouterModule
