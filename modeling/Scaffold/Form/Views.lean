import Scaffold.Template.Basic

/-!
# The views of a collection

The views that create and edit a record. Both read the payload from the form in the same way and show
the same widgets.
-/

namespace Scaffold.FormViews

open Template

/-! ## Parts of both views -/

/-- The imports of other generated modules. -/
def generatedImports : Template := sequence [
  row [text "import \x7b ", value ["store", "hook"], text " \x7d from '",
    value ["store", "import_path"], text "';"],
  row [text "import \x7b ", value ["names", "validator_function"], text " \x7d from '",
    value ["names", "validator_import"], text "';"],
  when (.path ["codecs"]) [
    row [text "import \x7b ", hole (.commas (.path ["codecs"])), text " \x7d from '",
      value ["codecs_import"], text "';"]]]

/-- What a form keeps: whether it is being sent, what is wrong, and the edited values. -/
def formState : Template := sequence [
  lines [
    "const submitting = ref(false);",
    "const errors = ref([]);",
    "const fieldErrors = ref(\x7b\x7d);",
    "",
    "const form = ref(\x7b"],
  forEach "field" (.path ["fields"]) [
    row [text "  ", value ["field", "model_key"], text ": ", value ["field", "initial"], text ","]],
  lines [
    "\x7d);",
    ""]]

/-- The function that reads the payload from the form. -/
def buildPayload : Template := sequence [
  lines [
    "function buildPayload() \x7b",
    "  const payload = \x7b\x7d;",
    "  const problems = \x7b\x7d;"],
  forEach "field" (.path ["fields"]) [
    choose (.path ["field", "parse_error"])
      (sequence [
        lines ["  try \x7b"],
        row [text "    payload.", value ["field", "name"], text " = ", value ["field", "decode_js"],
          text "(form.value.", value ["field", "model_key"], text ");"],
        lines ["  \x7d catch (error) \x7b"],
        row [text "    problems.", value ["field", "name"], text " = ",
          script ["field", "parse_error"], text ";"],
        lines ["  \x7d"]])
      (sequence [
        choose (.path ["field", "decode_js"])
          (sequence [
            row [text "  payload.", value ["field", "name"], text " = ",
              value ["field", "decode_js"], text "(form.value.", value ["field", "model_key"],
              text ");"]])
          (sequence [
            row [text "  payload.", value ["field", "name"], text " = form.value.",
              value ["field", "model_key"], text ";"]])])],
  lines [
    "  return \x7b payload, problems \x7d;",
    "\x7d"]]

/-- What happens when the form is sent: the payload is validated with some arguments, and then sent
with an action and its arguments. -/
def submit (validated action sent : String) : Template := sequence [
  row [within [("fields", .path ["fields"])] buildPayload],
  lines [
    "async function handleSubmit() \x7b",
    "  errors.value = [];",
    "  fieldErrors.value = \x7b\x7d;",
    "  const \x7b payload, problems \x7d = buildPayload();",
    "  if (Object.keys(problems).length > 0) \x7b",
    "    fieldErrors.value = problems;",
    "    return;",
    "  \x7d",
    "",
    "  submitting.value = true;",
    "  try \x7b"],
  row [text "    const validationErrors = await ", value ["names", "validator_function"],
    text validated],
  lines [
    "    if (validationErrors.length > 0) \x7b",
    "      errors.value = validationErrors;",
    "      return;",
    "    \x7d"],
  row [text "    const result = await store.", value ["names", action], text sent],
  lines [
    "    if (!result.ok) \x7b",
    "      errors.value = [result.error.message];",
    "      return;",
    "    \x7d",
    "    router.push('/');",
    "  \x7d finally \x7b",
    "    submitting.value = false;",
    "  \x7d",
    "\x7d"]]

/-- The form with a widget for each field. -/
def formBody : Template := sequence [
  lines ["    <form novalidate @submit.prevent=\"handleSubmit\">"],
  forEach "field" (.path ["fields"]) [
    row [value ["field", "widget"]]],
  lines [
    "",
    "      <ul v-if=\"errors.length\" class=\"form-errors\" role=\"alert\">",
    "        <li v-for=\"(message, index) in errors\" :key=\"index\">\x7b\x7b message \x7d\x7d</li>",
    "      </ul>",
    ""],
  row [text "      <button type=\"submit\" :disabled=\"submitting\">", value ["submit_label"],
    text "</button>"],
  lines ["    </form>"]]

/-! ## Creating a record -/

/-- What the view imports and keeps. -/
def createState : Template := sequence [
  lines [
    "<script setup>",
    "import \x7b ref \x7d from 'vue';",
    "import \x7b useRouter \x7d from 'vue-router';"],
  generatedImports,
  lines [
    "",
    "const router = useRouter();"],
  row [text "const store = ", value ["store", "hook"], text "();"],
  lines [""],
  formState]

/-- The markup of the view. -/
def createMarkup : Template := sequence [
  lines [
    "</script>",
    "",
    "<template>",
    "  <section class=\"collection-form\">"],
  row [text "    <h1>New ", value ["title"], text "</h1>"],
  row [within [("fields", .path ["fields"]), ("submit_label", .text "Create")] formBody],
  lines [
    "  </section>",
    "</template>"]]

/-- The text of the view that creates a record. -/
def create : Template := sequence [
  createState,
  submit "(payload);" "add_action" "(payload);",
  createMarkup]

/-! ## Editing a record -/

/-- What the view imports and keeps. -/
def editState : Template := sequence [
  lines [
    "<script setup>",
    "import \x7b onMounted, ref \x7d from 'vue';",
    "import \x7b useRoute, useRouter \x7d from 'vue-router';"],
  generatedImports,
  lines [
    "",
    "const props = defineProps(\x7b id: \x7b type: String, default: null \x7d \x7d);",
    "",
    "const route = useRoute();",
    "const router = useRouter();"],
  row [text "const store = ", value ["store", "hook"], text "();"],
  lines [
    "",
    "const recordId = props.id || route.params.id;",
    "const loading = ref(true);"],
  formState]

/-- What happens when the view opens. -/
def editLoad : Template := sequence [
  lines [
    "function leaveWith(message) \x7b",
    "  errors.value = [message];"],
  row [text "  setTimeout(() => router.replace('/'), ", value ["redirect_delay"], text ");"],
  lines [
    "\x7d",
    "",
    "onMounted(async () => \x7b",
    "  if (!recordId) \x7b",
    "    loading.value = false;"],
  row [text "    leaveWith('No ", value ["names", "canonical"], text " id was given.');"],
  lines [
    "    return;",
    "  \x7d"],
  row [text "  const result = await store.", value ["names", "get_action"], text "(recordId);"],
  lines [
    "  loading.value = false;",
    "  if (!result.ok) \x7b",
    "    leaveWith(result.error.message);",
    "    return;",
    "  \x7d",
    "  if (!result.data) \x7b"],
  row [text "    leaveWith(", hole (.script (.append (.path ["title"]) (.text " not found."))),
    text ");"],
  lines [
    "    return;",
    "  \x7d",
    "  const record = result.data;",
    "  form.value = \x7b"],
  forEach "field" (.path ["fields"]) [
    row [text "    ", value ["field", "model_key"], text ": ", value ["field", "load_expression"],
      text ","]],
  lines [
    "  \x7d;",
    "\x7d);",
    ""]]

/-- The markup of the view. -/
def editMarkup : Template := sequence [
  lines [
    "</script>",
    "",
    "<template>",
    "  <section class=\"collection-form\">"],
  row [text "    <h1>Edit ", value ["title"], text "</h1>"],
  lines [
    "    <p v-if=\"loading\" class=\"form-loading\">Loading…</p>",
    "    <template v-else>"],
  row [within [("fields", .path ["fields"]), ("submit_label", .text "Save")] formBody],
  lines [
    "    </template>",
    "  </section>",
    "</template>"]]

/-- The text of the view that edits a record. -/
def edit : Template := sequence [
  editState,
  editLoad,
  submit "(payload, \x7b checkEmailExistence: false \x7d);" "update_action" "(recordId, payload);",
  editMarkup]

end Scaffold.FormViews
