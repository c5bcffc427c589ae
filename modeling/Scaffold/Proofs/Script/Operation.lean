import Scaffold.Proofs.Script.FormSlot
import Scaffold.Proofs.Template.Parts

/-!
# Operations on records

What the modules of data access do with records, read line by line: the operations of a module of actions
with the roles that they ask for and the functions that they wait for, and the properties that are taken out
of a record or put into it on the way to the database.
-/

namespace Scaffold.Script

open Intake (isIdentifierChar)

/-! ## Modules of actions -/

/-- The words in front of the name of a constant. -/
def constantWords : List Char := "const ".toList

/-- What stands between a constant and its value. -/
def valueMark : List Char := " = ".toList

/-- The words in front of the name of an operation. -/
def operationWords : List Char := "async ".toList

/-- The words in front of a role that the session must have. -/
def roleWords : List Char := "requireRole(session, ".toList

/-- The words in front of a function whose result is waited for. -/
def waitWords : List Char := "await ".toList

/-- What a function is given that puts stamps into a record. -/
def dataWords : List Char := "(withoutId(data), session".toList

/-- What tells such a function to track who acts. -/
def trackWords : List Char := ", \x7b trackActor: true \x7d".toList

/-- The words in front of a property that is taken out of an object. -/
def patternWords : List Char := "const \x7b ".toList

/-- What stands between such a property and the name that it gets. -/
def renamedMark : List Char := ": _".toList

/-- What a line of a module of actions does. -/
inductive ActionLine where
  /-- An operation begins. -/
  | opens (name : String)
  /-- The session must have a role. -/
  | asks (role : String)
  /-- The result of a function is waited for. -/
  | awaits (function : String)
  /-- The data without its id is handed to a function, which may be told to track who acts. -/
  | stamps (function : String) (tracked : Bool)
  /-- A property is taken out of the data. -/
  | strips (property : String)
  deriving DecidableEq, Repr

/-- The expression on a line, which may be the value of a constant. -/
def expression (words : List Char) : List Char :=
  ((after? constantWords words).bind fun rest =>
    after? valueMark (rest.dropWhile isIdentifierChar)).getD words

/-- What a line of a module of actions does, if it does anything with records. -/
def actionLine? (line : List Char) : Option ActionLine :=
  let words := line.dropWhile (· == ' ')
  let result := expression words
  [(after? operationWords words).map fun rest => .opens (leadingName rest),
    ((after? roleWords words).bind unquote).map fun role => .asks role.1,
    (after? waitWords result).map fun rest => .awaits (leadingName rest),
    (after? dataWords (result.dropWhile isIdentifierChar)).map fun rest =>
      .stamps (leadingName result) (after? trackWords rest).isSome,
    (after? patternWords words).bind fun rest =>
      (after? renamedMark (rest.dropWhile isIdentifierChar)).map fun _ => .strips (leadingName rest)
  ].findSome? id

/-- An operation with what its lines do. -/
structure Operation where
  name : String
  steps : List ActionLine
  deriving DecidableEq, Repr

/-- The steps in front of the first operation, and the operations. -/
def operationsFrom : List ActionLine → List ActionLine × List Operation
  | [] => ([], [])
  | .opens name :: rest => ([], ⟨name, (operationsFrom rest).1⟩ :: (operationsFrom rest).2)
  | step :: rest => (step :: (operationsFrom rest).1, (operationsFrom rest).2)

/-- The operations of a module of actions. -/
def operations (content : String) : List Operation := (operationsFrom (said actionLine? content)).2

/-- The operations that ask for a role before they do anything else. -/
def guarded (role : String) (ps : List Operation) : List String :=
  (ps.filter fun p => p.steps.head? == some (.asks role)).map Operation.name

/-- The properties that a module of actions takes out of records. -/
def stripped (content : String) : List String :=
  (said actionLine? content).filterMap fun
    | .strips property => some property
    | _ => none

/-- The functions that give stamps to the records of an operation, and whether they track who acts. -/
def stampCalls (ps : List Operation) (operation : String) : List (String × Bool) :=
  (ps.filter (·.name == operation)).flatMap fun p => p.steps.filterMap fun
    | .stamps function tracked => some (function, tracked)
    | _ => none

/-! ## Modules of stamps -/

/-- The words in front of the name of a function that is exported. -/
def exportedFunctionWords : List Char := "export function ".toList

/-- The words in front of the properties of a copy of the data. -/
def copyWords : List Char := "const stamped = \x7b ...data, ".toList

/-- The words that open a block for when it is tracked who acts. -/
def trackerWords : List Char := "if (trackActor ".toList

/-- The line that ends a block of a function. -/
def blockEnd : List Char := "  \x7d".toList

/-- The words in front of a property that the copy gets. -/
def copiedWords : List Char := "stamped.".toList

/-- What a line of a module that gives stamps to records does. -/
inductive StampLine where
  /-- A function begins. -/
  | opens (name : String)
  /-- A copy of the data gets these properties, whatever it had before. -/
  | copies (properties : List String)
  /-- The lines up to the end of a block apply only when it is tracked who acts. -/
  | tracks
  /-- A block of a function ends. -/
  | closes
  /-- The copy gets a property. -/
  | puts (property : String)
  deriving DecidableEq, Repr

/-- What a line of a module that gives stamps does, if it does anything with them. -/
def stampLine? (line : List Char) : Option StampLine :=
  let words := line.dropWhile (· == ' ')
  [(after? exportedFunctionWords words).map fun rest => .opens (leadingName rest),
    (after? copyWords words).map fun rest =>
      .copies ((Text.partsBetween ',' rest).map fun part => leadingName (part.dropWhile (· == ' '))),
    (after? trackerWords words).map fun _ => .tracks,
    if line = blockEnd then some .closes else none,
    (after? copiedWords words).map fun rest => .puts (leadingName rest)
  ].findSome? id

/-- A function with the properties that it puts into every record, and those that it puts into a record only
when it tracks who acts. -/
structure Stamp where
  function : String
  always : List String
  whenTracked : List String
  deriving DecidableEq, Repr

/-- The properties of the function around the lines, and the functions after it. -/
def stampsFrom (tracked : Bool) : List StampLine → (List String × List String) × List Stamp
  | [] => (([], []), [])
  | .opens name :: rest =>
    let ((always, whenTracked), others) := stampsFrom false rest
    (([], []), ⟨name, always, whenTracked⟩ :: others)
  | .copies properties :: rest =>
    let ((always, whenTracked), others) := stampsFrom tracked rest
    ((properties ++ always, whenTracked), others)
  | .tracks :: rest => stampsFrom true rest
  | .closes :: rest => stampsFrom false rest
  | .puts property :: rest =>
    let ((always, whenTracked), others) := stampsFrom tracked rest
    if tracked then ((always, property :: whenTracked), others)
    else ((property :: always, whenTracked), others)

/-- The functions of a module that gives stamps. -/
def stamps (content : String) : List Stamp := (stampsFrom false (said stampLine? content)).2

/-- The properties that a call of a function puts into a record. -/
def written (ss : List Stamp) (call : String × Bool) : List String :=
  (ss.filter (·.function == call.1)).flatMap fun s => s.always ++ if call.2 then s.whenTracked else []

/-- The properties of records that adding and changing do not keep: they are taken out or overwritten. -/
def managed (actions support : String) : List String :=
  stripped actions ++ ["add", "update"].flatMap fun operation =>
    (stampCalls (operations actions) operation).flatMap (written (stamps support))

end Scaffold.Script
