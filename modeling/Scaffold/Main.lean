import Scaffold.CommandLine.Program
import Scaffold.Duration

/-!
# The executable

The program on the files, the environment and the screen of a computer.
-/

namespace Scaffold.Main

open CommandLine

/-! ## Files -/

/-- The number of a refusal of the operating system. -/
def refusalNumber : IO.Error → Nat
  | .noFileOrDirectory _ code _ => code.toNat
  | .alreadyExists _ code _ => code.toNat
  | .inappropriateType _ code _ => code.toNat
  | .invalidArgument _ code _ => code.toNat
  | .permissionDenied _ code _ => code.toNat
  | .resourceExhausted _ code _ => code.toNat
  | .otherError code _ => code.toNat
  | _ => 5

/-- The refusals that are told apart. -/
def kinds : List FileFaultKind := [.missing, .taken, .notADirectory, .isADirectory, .nameTooLong]

/-- The kind of a refusal of the operating system. -/
def faultKind (e : IO.Error) : FileFaultKind :=
  let number := refusalNumber e
  (kinds.find? fun kind => kind.description.1 == number).getD (.other number (toString e))

/-- A request for a path that names a file. -/
def request {α : Type} (p : Path) (action : String → IO α) : IO (Except FileFault α) := do
  if ProjectRoot.hasNullCharacter p then pure (.error ⟨.nullCharacter, p⟩)
  else
    try pure (.ok (← action p.toText))
    catch e => pure (.error ⟨faultKind e, p⟩)

/-- The requests for the files of a computer. -/
instance : Files IO where
  workingDirectory := do pure (Path.ofText (← IO.currentDir).toString)
  entry p := request p fun name => do
    let place ← IO.FS.realPath name
    pure (if ← place.isDir then .directory else .file)
  read p := request p fun name => IO.FS.readBinFile name
  makeDirectory p := request p fun name => IO.FS.createDir name
  write p content := request p fun name => IO.FS.writeBinFile name content

/-! ## The screen -/

/-- The rows of a table with their columns in line. -/
def tableLines (rows : List (String × String)) : List String :=
  let width := (rows.map fun row => row.1.length).foldl max 0
  rows.map fun (label, text) =>
    "  " ++ label ++ String.ofList (List.replicate (width - label.length) ' ') ++ "  " ++ text

/-- The lines that show an event; the summary also tells how long the run took. -/
def eventLines (duration : String) : Event → List String
  | .panel title text => ["[" ++ title ++ "]", text]
  | .stage name => ["", "== " ++ name ++ " =="]
  | .summary title rows => title :: tableLines (rows ++ [("Duration", duration)])
  | .error text | .warning text | .success text | .line text => [text]

/-- The use of the program. -/
def usage : String :=
  "usage: totigen [-h] [--project PROJECT] [--dry-run] [--verbose] [definition]"

/-- The text of a failure that is left to the caller. -/
def failureText : Failure → String
  | .file fault => fault.message
  | .definition _ => "The definition file cannot be read."
  | .run _ => "The definition is no mapping of collections and options."
  | .markup fault => fault.message
  | .screen => "The screen cannot show this."
  | .stack => "The definition is nested too deeply."

/-- The environment as far as it is looked at. -/
def environment : IO Environment := do
  let values ← Environment.names.mapM fun name => do pure (name, ← IO.getEnv name)
  pure (values.filterMap fun (name, value) => value.map fun v => (name, v))

/-- Shows what came of the program. -/
def present (o : Outcome) (milliseconds : Nat) : IO UInt32 := do
  for entry in o.log do
    IO.eprintln (entry.level.name ++ ": " ++ entry.text)
  for event in o.events do
    for line in eventLines (Duration.ofRatio milliseconds 1000) event do
      IO.println line
  match o.ending with
  | .exit status =>
    if o.events.isEmpty then IO.println usage
    pure status.toUInt32
  | .failed failure =>
    IO.eprintln (failureText failure)
    pure 1

end Scaffold.Main

/-- Runs the program. -/
def main (arguments : List String) : IO UInt32 := do
  let start ← IO.monoMsNow
  let env ← Scaffold.Main.environment
  let outcome : Scaffold.CommandLine.Outcome ← Scaffold.CommandLine.program .standard arguments env
  let finish ← IO.monoMsNow
  Scaffold.Main.present outcome (finish - start)
