import Scaffold.Console.Markup
import Scaffold.Definition
import Scaffold.Yaml.Document

/-!
# Tools

What the program shows its user, in order, and what it relies on and does not do itself: reading YAML, showing
markup, the screen, and the stack of the machine that it runs on.
-/

namespace Scaffold.CommandLine

/-! ## Events -/

/-- Something that is shown. -/
inductive Event where
  | panel (title text : String)
  | stage (name : String)
  | error (text : String)
  | warning (text : String)
  | success (text : String)
  | summary (title : String) (rows : List (String × String))
  | line (text : String)
  deriving DecidableEq, Repr

/-! ## Tools -/

/-- The tools of a program. -/
structure Tools where
  /-- The value of a YAML text. -/
  readYaml : Definition.YamlReader
  /-- The text that is shown for markup. -/
  showMarkup : String → Except Console.MarkupFault String
  /-- The screen takes an event. A character that it has no code for is a reason to refuse one. -/
  shows : Event → Bool
  /-- The stack is deep enough to read the file with a path and a content, and for all that is done with the
  values in it. -/
  hasStackFor : Path → ByteArray → Bool

namespace Tools

/-- The tools of this library, on a screen that takes everything and a stack that is always deep enough. -/
def standard : Tools where
  readYaml := Yaml.read
  showMarkup := Console.shownText
  shows _ := true
  hasStackFor _ _ := true

/-- The same tools with a screen that takes everything. -/
def showingAll (t : Tools) : Tools := { t with shows := fun _ => true }

end Tools

end Scaffold.CommandLine
