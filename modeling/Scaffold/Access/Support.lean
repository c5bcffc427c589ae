import Scaffold.Template.Basic

/-!
# The support module

What the data access of all collections shares: results, errors, filters, the check of roles, and the
stamps that records get when they are written.
-/

namespace Scaffold.SupportModule

open Template

/-! ## Results and errors -/

/-- Imports, the kinds of errors, and the roles if there are any. -/
def kinds : Template := sequence [
  lines [
    "// Shared helpers for the generated collection actions.",
    "import \x7b where, orderBy, serverTimestamp \x7d from 'firebase/firestore';"],
  when (.path ["activity_logging"]) [
    lines ["import \x7b logActivity \x7d from './activityLogger.js';"]],
  lines [
    "",
    "export const ErrorKind = Object.freeze(\x7b",
    "  STORE: 'store',",
    "  AUTH: 'auth',",
    "  UNAUTHENTICATED: 'unauthenticated',",
    "  FORBIDDEN: 'forbidden',",
    "\x7d);"],
  when (.path ["roles"]) [
    lines [""],
    row [text "export const ROLES = Object.freeze(", script ["roles"], text ");"]],
  lines [""]]

/-- Results that went well and results that did not. -/
def results : Template := sequence [
  lines [
    "export class AuthorizationError extends Error \x7b",
    "  constructor(kind, message) \x7b",
    "    super(message);",
    "    this.name = 'AuthorizationError';",
    "    this.kind = kind;",
    "  \x7d",
    "\x7d",
    "",
    "export function ok(data = null) \x7b",
    "  return \x7b ok: true, data, error: null \x7d;",
    "\x7d",
    "",
    "export function fail(cause, kind = null) \x7b",
    "  const resolvedKind = kind || (cause instanceof AuthorizationError ? cause.kind : ErrorKind.STORE);",
    "  return \x7b",
    "    ok: false,",
    "    data: null,",
    "    error: \x7b",
    "      kind: resolvedKind,",
    "      code: (cause && cause.code) || null,",
    "      message: (cause && cause.message) || String(cause),",
    "      cause,",
    "    \x7d,",
    "  \x7d;",
    "\x7d",
    ""]]

/-! ## Queries -/

/-- Constraints from filters and from a sorting. -/
def constraints : Template := sequence [
  row [text "const FILTER_OPERATORS = ", script ["filter_operators"], text ";"],
  lines [
    "",
    "export function buildFilterConstraints(filters = \x7b\x7d) \x7b",
    "  const constraints = [];",
    "  for (const [field, condition] of Object.entries(filters || \x7b\x7d)) \x7b",
    "    if (condition === undefined || condition === null || condition === '') continue;",
    "    if (Array.isArray(condition)) \x7b",
    "      constraints.push(where(field, 'in', condition));",
    "    \x7d else if (typeof condition === 'object' && FILTER_OPERATORS.includes(condition.op)) \x7b",
    "      constraints.push(where(field, condition.op, condition.value));",
    "    \x7d else \x7b",
    "      constraints.push(where(field, '==', condition));",
    "    \x7d",
    "  \x7d",
    "  return constraints;",
    "\x7d",
    "",
    "export function buildSortConstraints(sort) \x7b",
    "  if (!sort || !sort.field) return [];",
    "  return [orderBy(sort.field, sort.direction === 'desc' ? 'desc' : 'asc')];",
    "\x7d",
    ""]]

/-! ## Writing -/

/-- The user of a session, and the check of a role. -/
def roles : Template := sequence [
  lines [
    "export function currentUserOf(session) \x7b",
    "  return session && typeof session.currentUser === 'function' ? session.currentUser() : null;",
    "\x7d",
    "",
    "export function requireRole(session, role) \x7b",
    "  const user = currentUserOf(session);",
    "  if (!user) \x7b",
    "    throw new AuthorizationError(ErrorKind.UNAUTHENTICATED, 'User not authenticated');",
    "  \x7d",
    "  if (!Array.isArray(user.roles) || !user.roles.includes(role)) \x7b",
    "    throw new AuthorizationError(ErrorKind.FORBIDDEN, `User lacks required role: $\x7brole\x7d`);",
    "  \x7d",
    "\x7d",
    ""]]

/-- The stamps of records, and the record of activity if it is in use. -/
def stamps : Template := sequence [
  lines [
    "export function stampCreated(data, session, \x7b trackActor = false \x7d = \x7b\x7d) \x7b",
    "  const stamped = \x7b ...data, createdAt: serverTimestamp(), updatedAt: serverTimestamp() \x7d;",
    "  const user = currentUserOf(session);",
    "  if (trackActor && user && user.uid) \x7b",
    "    stamped.createdBy = user.uid;",
    "    stamped.updatedBy = user.uid;",
    "  \x7d",
    "  return stamped;",
    "\x7d",
    "",
    "export function stampUpdated(data, session, \x7b trackActor = false \x7d = \x7b\x7d) \x7b",
    "  const stamped = \x7b ...data, updatedAt: serverTimestamp() \x7d;",
    "  const user = currentUserOf(session);",
    "  if (trackActor && user && user.uid) \x7b",
    "    stamped.updatedBy = user.uid;",
    "  \x7d",
    "  return stamped;",
    "\x7d"],
  when (.path ["activity_logging"]) [
    lines [
      "",
      "export async function recordActivity(session, activity) \x7b",
      "  const result = await logActivity(activity, currentUserOf(session));",
      "  if (!result.success) \x7b",
      "    console.warn('[activity] not recorded:', result.error);",
      "  \x7d",
      "\x7d"]]]

/-! ## The module -/

/-- The text of the module. -/
def template : Template := sequence [kinds, results, constraints, roles, stamps]

end Scaffold.SupportModule
