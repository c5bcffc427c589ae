import Scaffold.Yaml.Node
import Scaffold.Yaml.Object

/-!
# YAML documents

The value that a YAML text stands for. What a node stands for becomes one value that all places
share. A container that contains itself becomes a knot, and so does every container on the way back
to it.
-/

namespace Scaffold.Yaml

/-! ## Values of objects -/

/-- The values of the nodes that are on no way back to themselves, as far as they are known. -/
abbrev Known := Array (Option Value)

/-- A value with the labels that stand in it for containers around it. -/
abbrev Part := Value × List Nat

/-- The value of a container with its parts: a knot if a way leads from it to a container around it,
and so back to itself. -/
def container (label : Nat) (inside : Value) (labels : List Nat) : Part :=
  if labels.isEmpty then (inside, []) else (.knot label inside, labels.filter (· != label))

/-- Remembers the value of a node, unless it is a knot, whose form depends on its place. -/
def remember (known : Known) (id : NodeId) (v : Value) : Known :=
  match v with
  | .knot _ _ => known
  | v => known.setIfInBounds id (some v)

/-- The label of the pair at a place in a container of pairs, different from those of all nodes and of
other pairs. -/
def pairLabel (size : Nat) (id : NodeId) (index : Nat) : Nat :=
  size + (id + index) * (id + index + 1) / 2 + id

/-- The value of the node at a place inside the containers with the given labels. The fuel bounds the
depth of nesting. -/
def valueOf (objects : Array (Option Object)) : Nat → List Nat → NodeId → StateM Known Part
  | 0, _, _ => pure (.null, [])
  | fuel + 1, around, id => do
    if around.contains id then return (.again id, [id])
    if let some v := ((← get)[id]?).join then return (v, [])
    let inside := valueOf objects fuel (id :: around)
    let part : Part ← match (objects[id]?).join with
      | some (.list items) => do
        let parts ← items.mapM inside
        pure (container id (.list (parts.map Prod.fst)) (parts.flatMap Prod.snd))
      | some (.map entries) => do
        let parts ← entries.mapM fun e => inside e.2
        pure (container id (.map ((entries.zip parts).map fun e => (e.1.1.value, e.2.1)))
          (parts.flatMap Prod.snd))
      | some (.pairs items) => do
        let parts ← (items.zipIdx).mapM fun ((k, v), i) => do
          let (key, keyLabels) ← inside k
          let (value, valueLabels) ← inside v
          pure (container (pairLabel objects.size id i) (.tuple [key, value])
            (keyLabels ++ valueLabels))
        pure (container id (.list (parts.map Prod.fst)) (parts.flatMap Prod.snd))
      | some (.set keys) => pure (.set (keys.map Key.value), [])
      | some (.scalar key) => pure (key.value, [])
      | none => pure (.null, [])
    modify fun known => remember known id part.1
    pure part

/-! ## Documents -/

/-- The value that a YAML text stands for; an empty text stands for null. -/
def read (s : String) : Except Fault Value :=
  match root? (tokens s.toList) with
  | .error e => .error e
  | .ok none => .ok .null
  | .ok (some (root, g)) =>
    match objects g root with
    | .error e => .error e
    | .ok objects =>
      let unknown : Known := Array.replicate objects.size none
      .ok ((valueOf objects (objects.size + 1) [] root).run unknown).1.1

end Scaffold.Yaml
