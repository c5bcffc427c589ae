import Scaffold.Yaml.Graph

/-!
# Merge keys

A merge key brings the entries of other mappings into its own mapping, in front of the mapping's own
ones. Merging changes the mapping for good: all places that refer to it see the result. So does the
key of a mapping's own value, which is an ordinary text from then on.
-/

namespace Scaffold.Yaml

namespace Graph

/-! ## Merge keys -/

/-- An entry with a merge key. -/
def isMerge (g : Graph) (entry : NodeId × NodeId) : Bool := g.tag entry.1 == mergeTag

/-- The number of entries with merge keys. Every merge takes one away. -/
def mergeCount (g : Graph) : Nat :=
  ((List.range g.nodes.size).flatMap g.entries).countP g.isMerge

/-- What a merge key names: a mapping, or the items of a sequence. -/
def mergeSources (g : Graph) (id : NodeId) : Except Fault (List NodeId) :=
  match g.node id with
  | .mapping _ _ => .ok [id]
  | .sequence _ items => .ok items
  | .scalar _ _ => .error .malformed

/-- Makes the keys of a mapping's own value texts. -/
def plainKeys (g : Graph) (id : NodeId) : Graph :=
  (g.entries id).foldl
    (fun g e => if g.tag e.1 == valueTag then g.put e.1 ((g.node e.1).withTag textTag) else g) g

/-! ## Merging -/

/-- Merges what the merge keys of a mapping name, one key after the other; `merged` has been brought
in already. Of the mappings that one key names, the entries of the last one come first. The fuel
bounds the number of merges. -/
def mergeFrom : Nat → List (NodeId × NodeId) → NodeId → Graph → Except Fault Graph
  | 0, _, _, _ => .error .malformed
  | fuel + 1, merged, id, g =>
    let entries := g.entries id
    match entries.find? g.isMerge with
    | none => .ok ((g.setEntries id (merged ++ entries)).plainKeys id)
    | some (_, named) =>
      match g.mergeSources named with
      | .error e => .error e
      | .ok sources =>
        let bring (state : Graph × List (NodeId × NodeId)) (source : NodeId) :
            Except Fault (Graph × List (NodeId × NodeId)) :=
          if state.1.isMapping source then
            (mergeFrom fuel [] source state.1).map fun g => (g, g.entries source ++ state.2)
          else .error .malformed
        match sources.foldlM bring (g.setEntries id (entries.eraseP g.isMerge), []) with
        | .error e => .error e
        | .ok (g, brought) => mergeFrom fuel (merged ++ brought) id g

/-- Merges what the merge keys of the mapping at a place name. -/
def merge (g : Graph) (id : NodeId) : Except Fault Graph :=
  if (g.entries id).any g.isMerge then mergeFrom (g.mergeCount + 1) [] id g
  else .ok (g.plainKeys id)

end Graph

end Scaffold.Yaml
