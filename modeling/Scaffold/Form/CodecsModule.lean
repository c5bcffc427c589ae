import Scaffold.Template.Basic

/-!
# The module of form texts

The conversions between stored values and the text that is edited in generated forms.
-/

namespace Scaffold.CodecsModule

open Template

/-- The text of the module. -/
def template : Template := sequence [
  lines [
    "// Conversions between stored values and the text edited in generated forms.",
    "",
    "export function toListText(value) \x7b",
    "  return Array.isArray(value) ? value.join(', ') : '';",
    "\x7d",
    "",
    "export function parseListText(text) \x7b",
    "  return text ? String(text).split(',').map((item) => item.trim()) : [];",
    "\x7d",
    "",
    "export function toObjectText(value) \x7b",
    "  if (!value || typeof value !== 'object' || Array.isArray(value)) return '';",
    "  return JSON.stringify(value, null, 2);",
    "\x7d",
    "",
    "export function parseObjectText(text) \x7b",
    "  if (!text || !String(text).trim()) return \x7b\x7d;",
    "  const parsed = JSON.parse(text);",
    "  if (parsed === null || typeof parsed !== 'object' || Array.isArray(parsed)) \x7b",
    "    throw new SyntaxError('Expected a JSON object');",
    "  \x7d",
    "  return parsed;",
    "\x7d",
    "",
    "const pad = (value) => String(value).padStart(2, '0');",
    "",
    "export function toDateTimeText(value) \x7b",
    "  if (!value) return '';",
    "  const date = typeof value.toDate === 'function' ? value.toDate() : new Date(value);",
    "  if (Number.isNaN(date.getTime())) return '';",
    "  return `$\x7bdate.getFullYear()\x7d-$\x7bpad(date.getMonth() + 1)\x7d-$\x7bpad(date.getDate())\x7dT$\x7bpad(date.getHours())\x7d:$\x7bpad(date.getMinutes())\x7d`;",
    "\x7d"]]

end Scaffold.CodecsModule
