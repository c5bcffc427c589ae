import Scaffold.Text.Parts

/-!
# Paths

Paths of files with slashes between their components. Empty components and single dots name no step
and are dropped; double dots are kept.
-/

namespace Scaffold

/-! ## Paths -/

/-- Where a path starts. Two slashes in front are told apart from one; three or more are not. -/
inductive Anchor where
  | relative
  | root
  | doubleRoot
  deriving DecidableEq, Repr

/-- A path: where it starts, and its components. -/
structure Path where
  anchor : Anchor := .relative
  components : List String
  deriving DecidableEq, Repr

namespace Path

/-! ## Text -/

/-- A component that names a step. -/
def isStep (part : List Char) : Bool := !part.isEmpty && part != ['.']

/-- The components of a text that name a step. -/
def steps (cs : List Char) : List String :=
  ((Text.partsBetween '/' cs).filter isStep).map String.ofList

/-- Where the path of a text starts. -/
def anchorOf : List Char → Anchor
  | '/' :: '/' :: '/' :: _ => .root
  | '/' :: '/' :: _ => .doubleRoot
  | '/' :: _ => .root
  | _ => .relative

/-- The path that a text stands for. -/
def ofText (s : String) : Path := ⟨anchorOf s.toList, steps s.toList⟩

/-- The text of a start. -/
def anchorText : Anchor → String
  | .relative => ""
  | .root => "/"
  | .doubleRoot => "//"

/-- The text of a path; the path without components is a dot. -/
def toText (p : Path) : String :=
  if p.anchor == .relative && p.components.isEmpty then "."
  else anchorText p.anchor ++ "/".intercalate p.components

/-! ## Parts -/

/-- A path that does not depend on the working directory. -/
def isAbsolute (p : Path) : Bool := p.anchor != .relative

/-- The components of the second path after those of the first; an absolute second path stands
alone. -/
def join (p q : Path) : Path :=
  if q.isAbsolute then q else ⟨p.anchor, p.components ++ q.components⟩

/-- A path with one more component. -/
def child (p : Path) (name : String) : Path := ⟨p.anchor, p.components ++ [name]⟩

/-- The path without its last component. -/
def parent (p : Path) : Path := ⟨p.anchor, p.components.dropLast⟩

/-- The last component. -/
def name (p : Path) : String := p.components.getLastD ""

/-- The ending of the last component from its last dot on. A dot at either end of the component
begins no ending. -/
def ending (p : Path) : String :=
  let cs := p.name.toList
  let tail := cs.reverse.takeWhile (· != '.')
  if tail.length + 1 < cs.length && !tail.isEmpty then String.ofList ('.' :: tail.reverse) else ""

end Path

end Scaffold
