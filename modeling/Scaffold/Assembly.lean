import Scaffold.Access.Stage
import Scaffold.Form.Stage
import Scaffold.Routing.Stage
import Scaffold.Store.Registry
import Scaffold.Validation.Stage

/-!
# Assembly

All generated files of a run: those of each stage in turn, the first failure ends the run. No two
files of a run have the same path.
-/

namespace Scaffold.Assembly

/-! ## Stages in turn -/

/-- The stages of a run in their order. -/
def stages : List Stage := [Access.stage, Store.stage, Validation.stage, Form.stage, Routing.stage]

/-- A failure of what a stage makes for all collections. One that knows its place keeps it. -/
def sharedFault (s : Stage) : StageFault → GenerationFault
  | .placed fault => fault
  | fault => ⟨s.name, none, fault.message⟩

/-- What a stage makes for all collections together. -/
def shared (s : Stage) (all : List Collection) (o : Options) :
    Except GenerationFault (List Artifact) :=
  (s.shared all o).mapError (sharedFault s)

/-- What a stage makes for one collection. -/
def forCollection (s : Stage) (all : List Collection) (o : Options) (c : Collection) :
    Except GenerationFault (List Artifact) :=
  (s.forCollection c all o).mapError fun fault => ⟨s.name, some c.camelName, fault.message⟩

/-- Lists one after the other, or the first failure. -/
def concatenate : List (Except GenerationFault (List Artifact)) →
    Except GenerationFault (List Artifact)
  | [] => .ok []
  | .ok files :: rest => (concatenate rest).map fun others => files ++ others
  | .error e :: _ => .error e

/-- What a stage makes. -/
def runStage (all : List Collection) (o : Options) (s : Stage) :
    List (Except GenerationFault (List Artifact)) :=
  shared s all o :: all.map (forCollection s all o)

/-! ## Unique paths -/

/-- The first path that comes up again. -/
def repeatedPath? (files : List Artifact) : Option String :=
  Text.firstRepeated [] (files.map Artifact.path)

/-- The name under which failures of the assembly itself are reported. -/
def stageName : String := "assemble"

/-- Files whose paths are all different. -/
def distinctPaths (files : List Artifact) : Except GenerationFault (List Artifact) :=
  match repeatedPath? files with
  | some path => .error ⟨stageName, none, "Two artifacts target " ++ path⟩
  | none => .ok files

/-! ## All files -/

/-- All files that stages make for collections. -/
def assemble (stages : List Stage) (all : List Collection) (o : Options) :
    Except GenerationFault (List Artifact) :=
  match concatenate (stages.flatMap (runStage all o)) with
  | .error e => .error e
  | .ok files => distinctPaths files

end Scaffold.Assembly
