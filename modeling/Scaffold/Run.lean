import Scaffold.Assembly
import Scaffold.Collection.Intake
import Scaffold.Definition
import Scaffold.Options.Settings
import Scaffold.Project.Writer

/-!
# Runs

A run reads collections and options from a definition, makes all files, and writes them unless it is a
dry run. Nothing is written before everything is made, so that a faulty definition leaves the project
as it is.
-/

namespace Scaffold

/-! ## Faults -/

/-- Why a run ends early. -/
inductive RunFault where
  /-- The definition is no mapping. -/
  | notAMapping
  | options (fault : Options.Fault)
  | schema (fault : SchemaFault)
  | generation (fault : GenerationFault)
  | write (fault : WriteFault)

/-! ## Reports -/

/-- What came of a run: the collections, the paths of the files, the places where they were written,
and the warnings. -/
structure Report where
  collections : List String := []
  artifacts : List String := []
  written : List String := []
  warnings : List String := []
  dryRun : Bool := false
  deriving DecidableEq, Repr

namespace Run

/-! ## Reading a definition -/

/-- The options of a definition, or those of the settings if it has none. -/
def options (s : Settings) (entries : List (Value × Value)) : Except RunFault Options :=
  let answers := (Value.field? entries Definition.optionsKey).getD .null
  if answers.truthy then (Options.ofAnswers answers).mapError .options else .ok s.options

/-- The raw collections of a definition. -/
def collections (entries : List (Value × Value)) : Value :=
  (Value.field? entries Definition.collectionsKey).getD (.list [])

/-- Collections with the warnings about the types of their fields. -/
def intake (o : Options) (raw : Value) :
    Logged (Except SchemaFault (List Collection × List String)) :=
  let (notes, result) := Intake.read o.identityNames raw
  (notes.filterMap Note.entry?, result.map fun all => (all, notes.filterMap Note.warning?))

/-! ## Making files -/

/-- All files with a report of them. -/
abbrev Build := List Artifact × Report

/-- The report of a run that has not written yet. -/
def report (s : Settings) (all : List Collection) (files : List Artifact)
    (warnings : List String) : Report where
  collections := all.map Collection.camelName
  artifacts := files.map Artifact.path
  warnings := warnings
  dryRun := s.dryRun

/-- The files that stages make for raw collections under options. -/
def buildWith (s : Settings) (stages : List Stage) (o : Options) (raw : Value) :
    Logged (Except RunFault Build) :=
  match intake o raw with
  | (log, .error e) => (log, .error (.schema e))
  | (log, .ok (all, warnings)) =>
    (log ++ warnings.map fun text => ⟨.warning, text⟩,
      match Assembly.assemble stages all o with
      | .error e => .error (.generation e)
      | .ok files => .ok (files, report s all files warnings))

/-- The files that stages make for a definition. -/
def build (s : Settings) (stages : List Stage) (definition : Value) :
    Logged (Except RunFault Build) :=
  match definition.entries? with
  | none => ([], .error .notAMapping)
  | some entries =>
    match options s entries with
    | .error e => ([], .error e)
    | .ok o => buildWith s stages o (collections entries)

/-! ## Writing files -/

/-- The failure of a run that does not know where to write. -/
def noProjectRoot : GenerationFault := ⟨"write", none, "No project root configured"⟩

variable {m : Type → Type} [Monad m] [Files m]

/-- Writes the files of a build below a root. -/
def writeBuild (root : Path) (b : Build) : m (Logged (Except RunFault Report)) := do
  let outcome ← Writer.writeAll root b.1
  pure (outcome.written.map Writer.entry,
    match outcome.fault with
    | some fault => .error (.write fault)
    | none => .ok { b.2 with written := outcome.written.map Path.toText })

/-- Writes the files of a build, unless it is a dry run. -/
def finish (s : Settings) (b : Build) : m (Logged (Except RunFault Report)) :=
  if s.dryRun then pure ([], .ok b.2)
  else
    match s.projectRoot with
    | none => pure ([], .error (.generation noProjectRoot))
    | some root => writeBuild root b

/-- A whole run. -/
def run (s : Settings) (stages : List Stage) (definition : Value) :
    m (Logged (Except RunFault Report)) := do
  match build s stages definition with
  | (log, .error e) => pure (log, .error e)
  | (log, .ok b) =>
    let (more, result) ← finish s b
    pure (log ++ more, result)

end Run

end Scaffold
