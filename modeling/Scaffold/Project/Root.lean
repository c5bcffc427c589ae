import Scaffold.Tree.Files

/-!
# The root of a project

A project is known by what stands in its root. The search for a root goes up from a directory.
-/

namespace Scaffold.ProjectRoot

/-! ## What a root holds -/

/-- The folder of sources. -/
def sourceFolder : String := "src"

/-- What has to stand in a root. -/
def markers : List String := ["package.json", sourceFolder, ".env.example"]

variable {m : Type → Type} [Monad m] [Files m]

/-- All of the given names stand in a directory. -/
def holdsAll (p : Path) : List String → m (Except FileFault Bool)
  | [] => pure (.ok true)
  | name :: rest => do
    match ← Files.exists? (p.child name) with
    | .ok true => holdsAll p rest
    | answer => pure answer

/-- A directory is the root of a project. -/
def isRoot (p : Path) : m (Except FileFault Bool) := do
  match ← holdsAll p markers with
  | .ok true => Files.isDirectory (p.child sourceFolder)
  | answer => pure answer

/-! ## The search -/

/-- Components without double dots, each of which takes away the one before it. -/
def withoutParents : List String → List String → List String
  | reversed, [] => reversed.reverse
  | reversed, c :: rest =>
    if c == ".." then withoutParents (reversed.drop 1) rest else withoutParents (c :: reversed) rest

/-- An absolute path without double dots. -/
def absolute (working p : Path) : Path := ⟨.root, withoutParents [] (working.join p).components⟩

/-- A directory and the directories above it, the nearest first. -/
def withParents (p : Path) : List Path :=
  (List.range (p.components.length + 1)).map fun i =>
    ⟨p.anchor, p.components.take (p.components.length - i)⟩

/-- The first of the candidates that is a root. -/
def firstRoot : List Path → m (Except FileFault (Option Path))
  | [] => pure (.ok none)
  | p :: rest => do
    match ← isRoot p with
    | .ok true => pure (.ok (some p))
    | .ok false => firstRoot rest
    | .error f => pure (.error f)

/-- A null character stands in a path. -/
def hasNullCharacter (p : Path) : Bool :=
  p.components.any fun c => c.toList.contains (Char.ofNat 0)

/-- The nearest root at a path or above it. -/
def find (start : Path) : m (Except FileFault (Option Path)) := do
  let working ← Files.workingDirectory
  if hasNullCharacter start then pure (.error ⟨.nullCharacter, start⟩)
  else firstRoot (withParents (absolute working start))

end Scaffold.ProjectRoot
