import Scaffold.CommandLine.Arguments
import Scaffold.CommandLine.Tools
import Scaffold.Project.Root
import Scaffold.Run

/-!
# The program

What the program does with its arguments, an environment and files: it finds the definition and the
project, runs, and reports. A definition that is at fault ends the program with a message, as far as there
is one for the fault; other failures are left to the caller, and so are those of the tools.
-/

namespace Scaffold.CommandLine

/-! ## Failures -/

/-- Why the program cannot do its work. -/
inductive Failure where
  | file (fault : FileFault)
  | definition (fault : DefinitionFault)
  | run (fault : RunFault)
  | markup (fault : Console.MarkupFault)
  /-- The screen refuses what is to be shown. -/
  | screen
  /-- The stack is not deep enough. -/
  | stack

namespace Failure

/-- What stands for a fault of YAML in messages. -/
def yamlText : String := "<YAMLError>"

/-- What stands for options with wrong parts in messages. -/
def optionsText : String := "<ValidationError>"

/-- The message for a failure of reading JSON, if it is reported. -/
def jsonReport? : Json.ReadFault → Option String
  | .surrogate => none
  | fault => some fault.message

/-- The message for a failure of reading YAML, if it is reported. -/
def yamlReport? : Yaml.Fault → Option String
  | .malformed => some yamlText
  | .scalar message => some message
  | _ => none

/-- The message for a failure of a definition file, if it is reported. -/
def definitionReport? : DefinitionFault → Option String
  | .encoding fault => some fault.message
  | .json fault => jsonReport? fault
  | .yaml fault => yamlReport? fault
  | .shape path kind => some (path.toText ++ ": expected a mapping or a list, got " ++ kind)

/-- The message for a failure of a run, if it is reported. -/
def runReport? : RunFault → Option String
  | .schema fault => some fault.message
  | .generation fault => some fault.message
  | .write fault => some fault.message
  | .options (.invalid _) => some optionsText
  | .options _ => none
  | .notAMapping => none

/-- The message for a failure, if it is reported. -/
def report? : Failure → Option String
  | file _ | markup _ | screen | stack => none
  | definition fault => definitionReport? fault
  | run fault => runReport? fault

end Failure

/-! ## Endings -/

/-- How the program ends: with a status, or with a failure that is left to the caller. -/
inductive Ending where
  | exit (status : Nat)
  | failed (failure : Failure)

/-- What came of the program. -/
structure Outcome where
  ending : Ending
  events : List Event := []
  log : List LogEntry := []

namespace Outcome

/-- The program ends with a message. -/
def stop (text : String) : Outcome := { ending := .exit 1, events := [.error text] }

/-- The program ends with a failure, which is reported if it can be. -/
def fail (f : Failure) : Outcome :=
  match f.report? with
  | some text => stop ("Generation failed: " ++ text)
  | none => { ending := .failed f }

/-- An outcome after an event. -/
def after (o : Outcome) (event : Event) : Outcome := { o with events := event :: o.events }

/-- An outcome on a screen. Everything ends with the first event that the screen refuses. -/
def shownBy (o : Outcome) (t : Tools) : Outcome :=
  if o.events.all t.shows then o
  else { o with ending := .failed .screen, events := o.events.takeWhile t.shows }

end Outcome

/-! ## Settings -/

/-- A text in arguments that is not empty. -/
def given? (s : Option String) : Option String := s.filter (!·.isEmpty)

/-- The settings that arguments and an environment ask for; arguments count more. -/
def settings (a : Arguments) (env : Environment) : Settings :=
  let base := Settings.ofEnvironment env
  { base with
    projectRoot := ((given? a.project).map Path.ofText).orElse fun _ => base.projectRoot
    definitionPath := ((given? a.definition).map Path.ofText).orElse fun _ => base.definitionPath
    dryRun := a.dryRun || base.dryRun
    verbose := a.verbose || base.verbose }

/-! ## Messages -/

/-- The message where there is no definition. -/
def noDefinition : String := "No definition file given (pass a path or set TOTIGEN_DEFINITION)"

/-- The message where the definition is not there. -/
def definitionMissing (p : Path) : String := "Definition file not found: " ++ p.toText

/-- The message where there is no project. -/
def noProject : String :=
  "No project root found (looked for package.json, src/ and .env.example). "
    ++ "Pass --project or run inside the project."

/-- The markup of the panel in front of a run. Paths in it are markup too. -/
def headerMarkup (definition : Path) (root : Option Path) : String :=
  "[bold bright_cyan]totigen[/bold bright_cyan]\nDefinition : " ++ definition.toText
    ++ "\nProject    : " ++ (root.map Path.toText).getD "(dry run)"

/-- The panel in front of a run. -/
def header (t : Tools) (definition : Path) (root : Option Path) : Except Console.MarkupFault Event :=
  (t.showMarkup (headerMarkup definition root)).map (.panel "Generate")

/-- The rows of the summary of a run. -/
def summaryRows (r : Report) : List (String × String) := [
  ("Collections", if r.collections.isEmpty then "(none)" else commaList r.collections),
  ("Artifacts", toString r.artifacts.length),
  ("Written", if r.dryRun then "dry run" else toString r.written.length),
  ("Warnings", toString r.warnings.length)]

/-- What is shown of a run: warnings, a summary, and what a dry run would write. -/
def reportEvents (r : Report) : List Event :=
  [Event.stage "Summary"]
    ++ r.warnings.map (fun text => Event.warning ("  " ++ text))
    ++ [Event.summary "Generation Summary" (summaryRows r)]
    ++ (if r.dryRun then r.artifacts.map fun path => Event.line ("  " ++ path) else [])
    ++ [Event.success "Generation complete."]

/-! ## The program -/

variable {m : Type → Type} [Monad m] [Files m]

/-- Runs the definition in a file. -/
def runFile (t : Tools) (s : Settings) (definition : Path) : m Outcome := do
  match ← Files.read definition with
  | .error f => pure (Outcome.fail (.file f))
  | .ok bytes =>
    if t.hasStackFor definition bytes then
      match Definition.read t.readYaml definition bytes with
      | .error f => pure (Outcome.fail (.definition f))
      | .ok entries =>
        match ← Run.run s Assembly.stages (.map entries) with
        | (log, .ok report) => pure { ending := .exit 0, events := reportEvents report, log := log }
        | (log, .error f) =>
          let outcome := Outcome.fail (.run f)
          pure { outcome with log := log }
    else pure (Outcome.fail .stack)

/-- The root of the project: the one that is set, or the nearest one. -/
def findProject (s : Settings) : m (Except FileFault (Option Path)) :=
  match s.projectRoot with
  | some root => pure (.ok (some root))
  | none => ProjectRoot.find ⟨.relative, []⟩

/-- Shows the panel, then runs a definition file for a project, if there is one. Nothing is run if the screen
does not take the panel. -/
def runShown (t : Tools) (s : Settings) (definition : Path) (root : Option Path) : m Outcome :=
  match header t definition root with
  | .error f => pure { ending := .failed (.markup f) }
  | .ok panel =>
    if t.shows panel then do
      let outcome ← runFile t { s with projectRoot := root } definition
      pure (outcome.after panel)
    else pure { ending := .failed .screen }

/-- Runs a definition file that is there. -/
def runProject (t : Tools) (s : Settings) (definition : Path) : m Outcome := do
  match ← findProject s with
  | .error f => pure { ending := .failed (.file f) }
  | .ok none => if s.dryRun then runShown t s definition none else pure (Outcome.stop noProject)
  | .ok (some root) => runShown t s definition (some root)

/-- Runs with settings. -/
def runSettings (t : Tools) (s : Settings) : m Outcome :=
  match s.definitionPath with
  | none => pure (Outcome.stop noDefinition)
  | some definition => do
    match ← Files.exists? definition with
    | .error f => pure { ending := .failed (.file f) }
    | .ok false => pure (Outcome.stop (definitionMissing definition))
    | .ok true => runProject t s definition

/-- A log entry that is shown: details only if they are asked for. -/
def isShown (verbose : Bool) (e : LogEntry) : Bool := verbose || e.level != .debug

/-- The whole program. -/
def program (t : Tools) (arguments : List String) (env : Environment) : m Outcome :=
  match parse arguments with
  | .error .help => pure { ending := .exit 0 }
  | .error .usage => pure { ending := .exit 2 }
  | .ok a => do
    let s := settings a env
    let outcome ← runSettings t s
    pure { outcome.shownBy t with log := outcome.log.filter (isShown s.verbose) }

end Scaffold.CommandLine
