import Scaffold.Template.Basic

/-!
# Placeholder views

The view that stands where a route leads to something that is not generated.
-/

namespace Scaffold.PlaceholderModule

open Template

/-- The text of the view. -/
def template : Template := sequence [
  lines [
    "<template>",
    "  <section class=\"placeholder-view\">"],
  row [text "    <h1>", value ["title"], text "</h1>"],
  when (.path ["description"]) [
    row [text "    <p>", value ["description"], text "</p>"]],
  lines [
    "  </section>",
    "</template>"]]

end Scaffold.PlaceholderModule
