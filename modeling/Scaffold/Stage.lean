import Scaffold.Name.Layout
import Scaffold.Template.Render

/-!
# Stages

A stage turns collections into generated files: some for all collections together, some for each. It
can fail, and the failure says where.
-/

namespace Scaffold

/-! ## Generated files -/

/-- A generated file: its path below the project and its content. -/
structure Artifact where
  path : String
  content : String := ""
  deriving DecidableEq, Repr

namespace Artifact

/-- A file with the text that a template has for values. -/
def ofTemplate (path : String) (t : Template) (values : List (String × Value)) :
    Except RenderFault Artifact :=
  (t.render (Scope.ofValues values)).map fun content => ⟨path, content⟩

/-- The file with a path and a content that are given as loosely typed input. -/
def read (given : List (String × Value)) : Input.Checked Artifact :=
  (Input.both (Input.required "path" given Input.nonemptyText)
    (Input.withDefault "content" given "" Input.text)).map fun (path, content) => ⟨path, content⟩

end Artifact

/-- A text without blanks around it that ends with one line feed. -/
def normalizeContent (content : String) : String := Text.trim content ++ "\n"

/-! ## Failures -/

/-- A failure with the stage and the collection it belongs to. -/
structure GenerationFault where
  stage : String
  collection : Option String
  cause : String
  deriving DecidableEq, Repr

/-- The text of a failure with its place. -/
def GenerationFault.message (f : GenerationFault) : String :=
  let place := match f.collection with
    | some c => if c.isEmpty then f.stage else f.stage ++ "/" ++ c
    | none => f.stage
  "Stage " ++ place ++ ": " ++ f.cause

/-- Why a stage fails: keys of the store or routes that are not unique, a template without a text, a
failure that knows its place, or any other failure by its text. -/
inductive StageFault where
  | repeatedKeys (keys : List String)
  | repeatedRoute (label value : String)
  | render (fault : RenderFault)
  | placed (fault : GenerationFault)
  | other (message : String)
  deriving DecidableEq, Repr

/-- The text of a failure. -/
def StageFault.message : StageFault → String
  | repeatedKeys keys => "Store keys defined more than once: " ++ commaList keys
  | repeatedRoute label value => "Duplicate route " ++ label ++ ": " ++ value
  | render fault => fault.message
  | placed fault => fault.message
  | other message => message

/-! ## Stages -/

/-- A stage: what it makes for all collections together, and what it makes for each one, which it
sees among all of them. -/
structure Stage where
  name : String
  shared : List Collection → Options → Except StageFault (List Artifact) := fun _ _ => .ok []
  forCollection : Collection → List Collection → Options → Except StageFault (List Artifact) :=
    fun _ _ _ => .ok []

namespace Stage

/-- What a stage makes for the collections of a list that are part of all collections. -/
def forEach (s : Stage) (all : List Collection) (o : Options) :
    List Collection → Except StageFault (List Artifact)
  | [] => .ok []
  | c :: rest =>
    match s.forCollection c all o with
    | .error e => .error e
    | .ok own => (s.forEach all o rest).map fun others => own ++ others

/-- Everything that a stage makes, the files for all collections first. -/
def generate (s : Stage) (all : List Collection) (o : Options) :
    Except StageFault (List Artifact) :=
  match s.shared all o with
  | .error e => .error e
  | .ok shared => (s.forEach all o all).map fun own => shared ++ own

/-- Files from templates, or the first failure. -/
def files : List (Except RenderFault Artifact) → Except StageFault (List Artifact)
  | [] => .ok []
  | .ok a :: rest => (files rest).map (a :: ·)
  | .error e :: _ => .error (.render e)

end Stage

end Scaffold
