import Scaffold.Yaml.Merge
import Scaffold.Yaml.ScalarValue

/-!
# What YAML nodes stand for

Every node stands for one object, however often it is referred to. Scalars are read when they are
come across. The contents of containers are read in the order in which the containers were come
across, the root first, so that of the faults of a document the one nearest to its root is found.
-/

namespace Scaffold.Yaml

/-! ## Objects -/

/-- A key of a mapping with the node that it comes from. All words for what is not a number are one
key. -/
structure Key where
  value : Value
  origin : Option NodeId

/-- Two keys are the same if they are equal or come from one node. -/
def Key.same (a b : Key) : Bool := a.origin == b.origin || a.value.same b.value

/-- What a node stands for: a value without parts, or a container of what other nodes stand for. -/
inductive Object where
  | scalar (key : Key)
  | list (items : List NodeId)
  | pairs (items : List (NodeId × NodeId))
  | map (entries : List (Key × NodeId))
  | set (keys : List Key)

/-- Gives a key a value. A key that is there keeps its spelling and its place; a new one comes
last. -/
def insertEntry (key : Key) (value : NodeId) : List (Key × NodeId) → List (Key × NodeId)
  | [] => [(key, value)]
  | (k, v) :: rest =>
    if k.same key then (k, value) :: rest else (k, v) :: insertEntry key value rest

/-! ## State -/

/-- The nodes, what they stand for so far, and the containers whose contents are to be read, the last
one first. -/
structure Reading where
  graph : Graph
  objects : Array (Option Object)
  waiting : List NodeId := []

namespace Reading

/-- Says what the node at a place stands for. -/
def put (r : Reading) (id : NodeId) (o : Object) : Reading :=
  { r with objects := r.objects.setIfInBounds id (some o) }

/-- What the node at a place stands for. -/
def object? (r : Reading) (id : NodeId) : Option Object := (r.objects[id]?).join

/-- The key that a node stands for. Containers are no keys. -/
def key? (r : Reading) (id : NodeId) : Option Key :=
  match r.object? id with
  | some (.scalar key) => some key
  | _ => none

end Reading

/-! ## Scalars -/

/-- The text of a scalar node, or of the own value of a mapping. The fuel bounds the number of
mappings; it runs out only if one contains itself. -/
def scalarText (g : Graph) : Nat → NodeId → Except Fault String
  | 0, _ => .error .endless
  | fuel + 1, id =>
    match g.node id with
    | .scalar _ text => .ok text
    | .mapping _ entries =>
      match entries.find? fun e => g.tag e.1 == valueTag with
      | some (_, v) => scalarText g fuel v
      | none => .error .malformed
    | .sequence _ _ => .error .malformed

/-- What a node with a scalar tag stands for. A time is read from a scalar node only. -/
def scalarObject (g : Graph) (id : NodeId) : Except Fault Object :=
  match scalarText g (g.nodes.size + 1) id with
  | .error e => .error e
  | .ok text =>
    let tag := g.tag id
    if tag == coreTag "timestamp" && g.isMapping id then .error .timeOfMapping
    else
      let shared := tag == coreTag "float" && isNotNumberWord text
      (scalarValue tag text).map fun v => .scalar ⟨v, if shared then none else some id⟩

/-! ## Containers -/

/-- The tags of containers. -/
def containerTags : List String := ["seq", "map", "set", "omap", "pairs"].map coreTag

/-- Comes across a node: reads a scalar, and lets a container wait. -/
def meet (r : Reading) (id : NodeId) : Except Fault Reading :=
  let tag := r.graph.tag id
  if (r.object? id).isSome then .ok r
  else if scalarTags.contains tag then (scalarObject r.graph id).map fun o => r.put id o
  else if containerTags.contains tag then
    .ok { r.put id (.list []) with waiting := id :: r.waiting }
  else .error .malformed

/-- Comes across the key and the value of an entry of a mapping. -/
def meetEntry (state : Reading × List (Key × NodeId)) (entry : NodeId × NodeId) :
    Except Fault (Reading × List (Key × NodeId)) :=
  match meet state.1 entry.1 with
  | .error e => .error e
  | .ok r =>
    match r.key? entry.1 with
    | none => .error .malformed
    | some key => (meet r entry.2).map fun r => (r, insertEntry key entry.2 state.2)

/-- Comes across the entries of a mapping after merging. -/
def meetEntries (r : Reading) (id : NodeId) : Except Fault (Reading × List (Key × NodeId)) :=
  if r.graph.isMapping id then
    match r.graph.merge id with
    | .error e => .error e
    | .ok g => (g.entries id).foldlM meetEntry ({ r with graph := g }, [])
  else .error .malformed

/-- Comes across a pair: the key and the value of a mapping with one entry. -/
def meetPair (state : Reading × List (NodeId × NodeId)) (id : NodeId) :
    Except Fault (Reading × List (NodeId × NodeId)) :=
  match state.1.graph.entries id with
  | [(k, v)] =>
    match meet state.1 k with
    | .error e => .error e
    | .ok r => (meet r v).map fun r => (r, state.2 ++ [(k, v)])
  | _ => .error .malformed

/-- Reads the contents of a container. -/
def readContents (r : Reading) (id : NodeId) : Except Fault Reading :=
  let tag := r.graph.tag id
  if tag == mappingTag then
    (meetEntries r id).map fun (r, entries) => r.put id (.map entries)
  else if tag == coreTag "set" then
    (meetEntries r id).map fun (r, entries) => r.put id (.set (entries.map Prod.fst))
  else
    match r.graph.node id with
    | .sequence _ items =>
      if tag == sequenceTag then (items.foldlM meet r).map fun r => r.put id (.list items)
      else (items.foldlM meetPair (r, [])).map fun (r, pairs) => r.put id (.pairs pairs)
    | _ => .error .malformed

/-- Reads the contents of all containers that wait, and of those that are come across on the way. The
fuel bounds the depth of nesting. -/
def readWaiting : Nat → Reading → Except Fault Reading
  | 0, r => .ok r
  | fuel + 1, r =>
    match r.waiting with
    | [] => .ok r
    | waiting =>
      match waiting.reverse.foldlM readContents { r with waiting := [] } with
      | .error e => .error e
      | .ok r => readWaiting fuel r

/-- What the nodes of a document stand for. -/
def objects (g : Graph) (root : NodeId) : Except Fault (Array (Option Object)) :=
  match meet { graph := g, objects := Array.replicate g.nodes.size none } root with
  | .error e => .error e
  | .ok r => (readWaiting (g.nodes.size + 1) r).map Reading.objects

end Scaffold.Yaml
