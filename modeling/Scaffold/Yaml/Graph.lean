import Scaffold.Yaml.Tag

/-!
# YAML nodes

The nodes of a document. A node refers to others by their places in the graph of all nodes, so that
a node with a name can stand in many places, also inside of itself.
-/

namespace Scaffold.Yaml

/-- The place of a node in a graph. -/
abbrev NodeId := Nat

/-- A node with its tag. -/
inductive Node where
  | scalar (tag text : String)
  | sequence (tag : String) (items : List NodeId)
  | mapping (tag : String) (entries : List (NodeId × NodeId))
  deriving Inhabited

namespace Node

/-- The tag of a node. -/
def tag : Node → String
  | scalar tag _ => tag
  | sequence tag _ => tag
  | mapping tag _ => tag

/-- A node with another tag. -/
def withTag (tag : String) : Node → Node
  | scalar _ text => .scalar tag text
  | sequence _ items => .sequence tag items
  | mapping _ entries => .mapping tag entries

end Node

/-- The nodes of a document by their places. -/
structure Graph where
  nodes : Array Node := #[]

namespace Graph

/-- The node at a place. A place outside of the graph holds an empty text. -/
def node (g : Graph) (id : NodeId) : Node := g.nodes.getD id (.scalar textTag "")

/-- The tag of the node at a place. -/
def tag (g : Graph) (id : NodeId) : String := (g.node id).tag

/-- Adds a node at the end. -/
def add (g : Graph) (n : Node) : NodeId × Graph := (g.nodes.size, ⟨g.nodes.push n⟩)

/-- Puts a node at a place. -/
def put (g : Graph) (id : NodeId) (n : Node) : Graph := ⟨g.nodes.setIfInBounds id n⟩

/-- The node at a place is a mapping. -/
def isMapping (g : Graph) (id : NodeId) : Bool :=
  match g.node id with
  | .mapping _ _ => true
  | _ => false

/-- The entries of the mapping at a place; any other node has none. -/
def entries (g : Graph) (id : NodeId) : List (NodeId × NodeId) :=
  match g.node id with
  | .mapping _ entries => entries
  | _ => []

/-- Gives the mapping at a place other entries. -/
def setEntries (g : Graph) (id : NodeId) (entries : List (NodeId × NodeId)) : Graph :=
  g.put id (.mapping (g.tag id) entries)

end Graph

end Scaffold.Yaml
