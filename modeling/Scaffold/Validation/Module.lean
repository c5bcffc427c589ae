import Scaffold.Template.Basic

/-!
# The validator module

The module that validates the records of a collection: first what is required, then the kinds of the
fields, then, if asked for, whether addresses are taken.
-/

namespace Scaffold.ValidatorModule

open Template

/-- Imports, the test for blank values, and what the function does. -/
def opening : Template := sequence [
  when (.path ["plan", "email_fields"]) [
    lines [
      "import \x7b getAuth, fetchSignInMethodsForEmail \x7d from 'firebase/auth';",
      ""],
    row [text "const EMAIL_PATTERN = ", value ["email_pattern"], text ";"]],
  lines [
    "",
    "const isBlank = (value) => value === undefined || value === null || String(value).trim() === '';",
    "",
    "/**"],
  row [text " * Validate a '", value ["names", "canonical"], text "' record."],
  lines [
    " *",
    " * Required checks run first, in field order; a field that fails them is not",
    " * type-checked. Resolves to a list of messages, empty when the record is valid."],
  when (.path ["plan", "email_fields"]) [
    lines [" * Pass \x7b checkEmailExistence: false \x7d to skip the registered-email lookup."]],
  lines [" */"]]

/-- What is required, and the kinds of the fields. -/
def checks : Template := sequence [
  row [text "export async function ", value ["names", "validator_function"],
    text "(data, options = \x7b\x7d) \x7b"],
  lines [
    "  const record = data || \x7b\x7d;",
    "  const errors = [];",
    "  const missing = new Set();"],
  forEach "req" (.path ["plan", "required"]) [
    lines [""],
    row [text "  if (isBlank(record.", value ["req", "field"], text ")) \x7b"],
    row [text "    errors.push(", script ["req", "message"], text ");"],
    row [text "    missing.add(", script ["req", "field"], text ");"],
    lines ["  \x7d"]],
  forEach "type_check" (.path ["plan", "type_checks"]) [
    lines [""],
    when (.path ["type_check", "annotation"]) [
      row [text "  // ", value ["type_check", "annotation"]]],
    row [text "  if (!missing.has(", script ["type_check", "field"], text ") && (",
      hole (.element (.path ["conditions"]) (.path ["loop", "index0"])), text ")) \x7b"],
    row [text "    errors.push(", script ["type_check", "fragment", "message"], text ");"],
    lines ["  \x7d"]]]

/-- Whether addresses are taken. -/
def addresses : Template := sequence [
  when (.path ["plan", "email_fields"]) [
    lines [
      "",
      "  if (options.checkEmailExistence !== false) \x7b"],
    forEach "field" (.path ["plan", "email_fields"]) [
      row [text "    if (!missing.has(", script ["field"], text ") && typeof record.",
        value ["field"], text " === 'string' && EMAIL_PATTERN.test(record.", value ["field"],
        text ")) \x7b"],
      lines ["      try \x7b"],
      row [text "        const methods = await fetchSignInMethodsForEmail(getAuth(), record.",
        value ["field"], text ");"],
      lines ["        if (methods && methods.length > 0) \x7b"],
      row [text "          errors.push(",
        hole (.script (.element (.path ["email_in_use"]) (.path ["field"]))), text ");"],
      lines [
        "        \x7d",
        "      \x7d catch (error) \x7b"],
      row [text "        console.warn('[", value ["names", "validator_function"],
        text "] email existence check failed for ", value ["field"], text ":', error);"],
      lines [
        "      \x7d",
        "    \x7d"]],
    lines ["  \x7d"]],
  lines [
    "",
    "  return errors;",
    "\x7d"]]

/-- The text of the module. -/
def template : Template := sequence [opening, checks, addresses]

end Scaffold.ValidatorModule
