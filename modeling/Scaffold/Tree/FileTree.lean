import Scaffold.Tree.Files

/-!
# Trees of files

Directories and files as a value, with the requests for files defined on it. A name is the list of
components that lead to it from the root; the root itself is always there.
-/

namespace Scaffold

/-! ## The tree -/

/-- What stands in a tree under a name. -/
inductive Node where
  | directory
  | file (content : ByteArray)

/-- The kind of a node. -/
def Node.kind : Node → EntryKind
  | directory => .directory
  | file _ => .file

/-- The nodes of a tree by their names. -/
structure FileTree where
  nodes : List (List String × Node) := []

namespace FileTree

/-- The node with a name. -/
def find? (t : FileTree) (name : List String) : Option Node :=
  if name.isEmpty then some .directory else t.nodes.lookup name

/-- Nodes with a node under a name, in the place of an earlier one. -/
def setNode (name : List String) (node : Node) :
    List (List String × Node) → List (List String × Node)
  | [] => [(name, node)]
  | (n, old) :: rest =>
    if n == name then (n, node) :: rest else (n, old) :: setNode name node rest

/-- A tree with a node under a name. -/
def set (t : FileTree) (name : List String) (node : Node) : FileTree :=
  ⟨setNode name node t.nodes⟩

/-- What was put under a name is found there. -/
theorem lookup_setNode_self (name : List String) (node : Node)
    (nodes : List (List String × Node)) : (setNode name node nodes).lookup name = some node := by
  induction nodes with
  | nil => rw [setNode, List.lookup_cons, beq_self_eq_true name]
  | cons entry rest ih =>
    obtain ⟨n, old⟩ := entry
    rw [setNode]
    split
    next e => rw [List.lookup_cons, eq_of_beq e, beq_self_eq_true name]
    next h =>
      rw [List.lookup_cons, beq_eq_false_iff_ne.2 fun e => h (beq_iff_eq.2 e.symm)]
      exact ih

/-- Nothing changes under other names. -/
theorem lookup_setNode_of_ne {name other : List String} (h : other ≠ name) (node : Node)
    (nodes : List (List String × Node)) :
    (setNode name node nodes).lookup other = nodes.lookup other := by
  induction nodes with
  | nil => rw [setNode, List.lookup_cons, beq_eq_false_iff_ne.2 h]
  | cons entry rest ih =>
    obtain ⟨n, old⟩ := entry
    rw [setNode]
    split
    next e =>
      rw [List.lookup_cons, List.lookup_cons, eq_of_beq e, beq_eq_false_iff_ne.2 h]
    next =>
      rw [List.lookup_cons, List.lookup_cons, ih]

/-- A node is found under its name. -/
theorem find?_set_self (t : FileTree) {name : List String} (h : name ≠ []) (node : Node) :
    (t.set name node).find? name = some node := by
  rw [find?, List.isEmpty_eq_false_iff.2 h]
  exact lookup_setNode_self name node t.nodes

/-- Other nodes are left as they are. -/
theorem find?_set_of_ne (t : FileTree) {name other : List String} (h : other ≠ name)
    (node : Node) : (t.set name node).find? other = t.find? other := by
  rw [find?, find?]
  split
  · rfl
  · exact lookup_setNode_of_ne h node t.nodes

/-- The files of a tree. -/
def files (t : FileTree) : List (List String × ByteArray) :=
  t.nodes.filterMap fun (name, node) =>
    match node with
    | .file content => some (name, content)
    | .directory => none

/-! ## Following paths -/

/-- The number of bytes that a component can have. -/
def componentLimit : Nat := 255

/-- The number of bytes that a path has to stay below. -/
def pathLimit : Nat := 4096

/-- The name that components lead to from a directory. All of the way has to be there, what it leads to
need not be. -/
def follow (t : FileTree) (name : List String) : List String → Except FileFaultKind (List String)
  | [] => .ok name
  | c :: rest =>
    match t.find? name with
    | none => .error .missing
    | some (.file _) => .error .notADirectory
    | some .directory =>
      if c == ".." then t.follow name.dropLast rest
      else if componentLimit < c.utf8ByteSize then .error .nameTooLong
      else t.follow (name ++ [c]) rest

/-- The name that a path leads to from a directory. -/
def nameOf (t : FileTree) (start : List String) (p : Path) : Except FileFaultKind (List String) :=
  if p.components.any fun c => c.toList.contains (Char.ofNat 0) then .error .nullCharacter
  else if pathLimit ≤ p.toText.utf8ByteSize then .error .nameTooLong
  else t.follow (if p.isAbsolute then [] else start) p.components

/-! ## Requests -/

/-- What a path leads to. -/
def entry (t : FileTree) (start : List String) (p : Path) : Except FileFaultKind EntryKind :=
  match t.nameOf start p with
  | .error f => .error f
  | .ok name =>
    match t.find? name with
    | some node => .ok node.kind
    | none => .error .missing

/-- The bytes of a file. -/
def read (t : FileTree) (start : List String) (p : Path) : Except FileFaultKind ByteArray :=
  match t.nameOf start p with
  | .error f => .error f
  | .ok name =>
    match t.find? name with
    | some (.file content) => .ok content
    | some .directory => .error .isADirectory
    | none => .error .missing

/-- A tree with one more directory. -/
def makeDirectory (t : FileTree) (start : List String) (p : Path) :
    Except FileFaultKind FileTree :=
  match t.nameOf start p with
  | .error f => .error f
  | .ok name =>
    match t.find? name with
    | some _ => .error .taken
    | none => .ok (t.set name .directory)

/-- A tree in which a file has the given bytes. -/
def write (t : FileTree) (start : List String) (p : Path) (content : ByteArray) :
    Except FileFaultKind FileTree :=
  match t.nameOf start p with
  | .error f => .error f
  | .ok name =>
    match t.find? name with
    | some .directory => .error .isADirectory
    | _ => .ok (t.set name (.file content))

end FileTree

/-! ## Disks -/

/-- A tree of files with a working directory. -/
structure Disk where
  tree : FileTree := {}
  workingDirectory : List String := []

namespace Disk

/-- The answer to a request that changes nothing. -/
def ask {α : Type} (p : Path) (request : FileTree → List String → Path → Except FileFaultKind α) :
    StateM Disk (Except FileFault α) := fun d =>
  ((request d.tree d.workingDirectory p).mapError fun kind => ⟨kind, p⟩, d)

/-- A request that changes the tree unless it is refused. -/
def change (p : Path)
    (request : FileTree → List String → Path → Except FileFaultKind FileTree) :
    StateM Disk (Except FileFault Unit) := fun d =>
  match request d.tree d.workingDirectory p with
  | .ok t => (.ok (), { d with tree := t })
  | .error kind => (.error ⟨kind, p⟩, d)

end Disk

/-- The requests for files on a disk. -/
instance : Files (StateM Disk) where
  workingDirectory := fun d => (⟨.root, d.workingDirectory⟩, d)
  entry p := Disk.ask p FileTree.entry
  read p := Disk.ask p FileTree.read
  makeDirectory p := Disk.change p FileTree.makeDirectory
  write p content := Disk.change p fun t start q => t.write start q content

end Scaffold
