import Scaffold.Log
import Scaffold.Stage
import Scaffold.Text.Utf8
import Scaffold.Tree.Files

/-!
# Writing generated files

Generated files are written below the root of a project, one after the other. The first one that cannot
be written ends the writing; those before it stay.
-/

namespace Scaffold

/-! ## Faults -/

/-- Why a file cannot be written. -/
inductive WriteFault where
  | refused (path cause : String)
  /-- A null character stands in the root, so that nothing can be written below it. -/
  | nullCharacter
  deriving DecidableEq, Repr

/-- The text of a fault. -/
def WriteFault.message : WriteFault → String
  | refused path cause => path ++ ": " ++ cause
  | nullCharacter => (FileFault.message ⟨.nullCharacter, ⟨.relative, []⟩⟩)

namespace Writer

/-! ## Places -/

/-- The component that leads to the directory above. -/
def parentStep : String := ".."

/-- Where a file goes. A path that could lead out of the project is refused. -/
def resolve (root : Path) (a : Artifact) : Except WriteFault Path :=
  let p := Path.ofText a.path
  if p.isAbsolute || p.components.contains parentStep then
    .error (.refused a.path "path escapes the project root")
  else .ok (root.join p)

/-! ## Writing -/

/-- The fault of a file that was refused. -/
def faultOf (a : Artifact) (f : FileFault) : WriteFault :=
  if f.kind == .nullCharacter then .nullCharacter else .refused a.path f.message

/-- The files that were written, and why the writing ended before its end. -/
structure Outcome where
  written : List Path := []
  fault : Option WriteFault := none

variable {m : Type → Type} [Monad m] [Files m]

/-- Writes a file and tells where it is. -/
def write (root : Path) (a : Artifact) : m (Except WriteFault Path) :=
  match resolve root a with
  | .error e => pure (.error e)
  | .ok target => do
    match ← Files.put target (Utf8.encode (normalizeContent a.content)) with
    | .ok _ => pure (.ok target)
    | .error f => pure (.error (faultOf a f))

/-- Writes files in their order. -/
def writeAll (root : Path) : List Artifact → m Outcome
  | [] => pure {}
  | a :: rest => do
    match ← write root a with
    | .error e => pure { fault := some e }
    | .ok target =>
      let others ← writeAll root rest
      pure { others with written := target :: others.written }

/-- The log entry of a file that was written. -/
def entry (target : Path) : LogEntry := ⟨.debug, "Wrote " ++ target.toText⟩

end Writer

end Scaffold
