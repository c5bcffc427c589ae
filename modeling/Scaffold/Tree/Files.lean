import Scaffold.Tree.Path
import Scaffold.Value.Display

/-!
# Access to files

What a program asks of the files it works on, and why a file is refused. The requests are a class, so
that the same program runs on the files of a computer and on a tree of files that is a value.
-/

namespace Scaffold

/-! ## Faults -/

/-- Why a path cannot be used. -/
inductive FileFaultKind where
  | missing
  | taken
  | notADirectory
  | isADirectory
  | nameTooLong
  /-- A null character stands in the path, so that it names no file. -/
  | nullCharacter
  /-- Any other reason, by its number and its text. -/
  | other (number : Nat) (text : String)
  deriving DecidableEq, Repr

/-- A path that cannot be used, and why. -/
structure FileFault where
  kind : FileFaultKind
  path : Path
  deriving DecidableEq, Repr

namespace FileFaultKind

/-- The number and the text of a reason. -/
def description : FileFaultKind → Nat × String
  | missing => (2, "No such file or directory")
  | taken => (17, "File exists")
  | notADirectory => (20, "Not a directory")
  | isADirectory => (21, "Is a directory")
  | nameTooLong => (36, "File name too long")
  | nullCharacter => (22, "Invalid argument")
  | other number text => (number, text)

end FileFaultKind

/-- The text of a fault: the reason and the path it is about. -/
def FileFault.message (f : FileFault) : String :=
  match f.kind with
  | .nullCharacter => "embedded null byte"
  | kind =>
    let (number, text) := kind.description
    "[Errno " ++ toString number ++ "] " ++ text ++ ": " ++ Quoted.text f.path.toText

/-! ## Requests -/

/-- What a path leads to. -/
inductive EntryKind where
  | directory
  | file
  deriving DecidableEq, Repr

/-- The requests for files. -/
class Files (m : Type → Type) where
  /-- The directory that relative paths start from. -/
  workingDirectory : m Path
  /-- What a path leads to. -/
  entry : Path → m (Except FileFault EntryKind)
  /-- The bytes of a file. -/
  read : Path → m (Except FileFault ByteArray)
  /-- Makes a directory in a directory that is there. -/
  makeDirectory : Path → m (Except FileFault Unit)
  /-- Gives a file its bytes. The file is made if it is not there, in a directory that is. -/
  write : Path → ByteArray → m (Except FileFault Unit)

namespace Files

variable {m : Type → Type} [Monad m] [Files m]

/-- A path that leads nowhere counts as an answer, other faults do not. -/
def leadsNowhere (f : FileFault) : Bool :=
  f.kind == .missing || f.kind == .notADirectory || f.kind == .nullCharacter

/-- A path leads to something. -/
def exists? (p : Path) : m (Except FileFault Bool) := do
  match ← entry p with
  | .ok _ => pure (.ok true)
  | .error f => pure (if leadsNowhere f then .ok false else .error f)

/-- A path leads to a directory. -/
def isDirectory (p : Path) : m (Except FileFault Bool) := do
  match ← entry p with
  | .ok kind => pure (.ok (kind == .directory))
  | .error f => pure (if leadsNowhere f then .ok false else .error f)

/-- A directory that could not be made is no fault if it is there. -/
def acceptDirectory (p : Path) (f : FileFault) : m (Except FileFault Unit) := do
  if f.kind == .nullCharacter then pure (.error f)
  else
    match ← isDirectory p with
    | .ok true => pure (.ok ())
    | .ok false => pure (.error f)
    | .error g => pure (.error g)

/-- Makes a directory that may be there already. -/
def ensureDirectory (p : Path) : m (Except FileFault Unit) := do
  match ← makeDirectory p with
  | .ok _ => pure (.ok ())
  | .error f => if f.kind == .missing then pure (.error f) else acceptDirectory p f

/-- Makes a directory and the directories above it as far as they are not there. The number of
components of the path is a bound on the number of directories. -/
def ensureDirectories (p : Path) : Nat → m (Except FileFault Unit)
  | 0 => ensureDirectory p
  | n + 1 => do
    match ← makeDirectory p with
    | .ok _ => pure (.ok ())
    | .error f =>
      if f.kind == .missing then
        match ← ensureDirectories p.parent n with
        | .ok _ => ensureDirectory p
        | .error g => pure (.error g)
      else acceptDirectory p f

/-- Gives a file its bytes in a directory that is made if need be. -/
def put (p : Path) (content : ByteArray) : m (Except FileFault Unit) := do
  match ← ensureDirectories p.parent p.components.length with
  | .error f => pure (.error f)
  | .ok _ => write p content

end Files

end Scaffold
