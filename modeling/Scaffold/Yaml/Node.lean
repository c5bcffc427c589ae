import Scaffold.Yaml.Graph
import Scaffold.Yaml.Token.Stream

/-!
# From YAML tokens to nodes

The nodes that the tokens of a document stand for. Every node has a tag, an alias refers to the node
that it names, also from inside of that node, and left-out nodes are empty scalars. Tokens are looked
at one after the other, so a text that breaks off with a fault is refused for that fault only if
everything before it is in order.
-/

namespace Scaffold.Yaml

/-! ## State -/

/-- What is known while a document is read: the tokens to come, the nodes so far, the places of those
that have a name, and the meanings of tag handles. -/
structure Context where
  tokens : List Token
  graph : Graph := {}
  anchors : List (String × NodeId) := []
  handles : List (String × String) := []

/-- A result and the state after it. -/
abbrev Compose (α : Type) := Except Fault (α × Context)

/-- The meanings of the tag handles that need no directive. -/
def defaultHandles : List (String × String) := [("!", "!"), ("!!", coreTag "")]

namespace Context

/-- Takes a token. -/
def skip (ctx : Context) : Context := { ctx with tokens := ctx.tokens.drop 1 }

/-- The fault of the next token: its own if the text breaks off there, else that it may not stand
there. -/
def fault (ctx : Context) : Fault :=
  match ctx.tokens with
  | .broken f :: _ => f
  | _ => .malformed

/-- The fault with which the text breaks off here. -/
def break? (ctx : Context) : Option Fault :=
  match ctx.tokens with
  | .broken f :: _ => some f
  | _ => none

/-- Adds a node, which may have a name. -/
def add (ctx : Context) (anchor : Option String) (n : Node) : NodeId × Context :=
  let (id, graph) := ctx.graph.add n
  (id, { ctx with graph := graph, anchors := (anchor.map fun a => (a, id)).toList ++ ctx.anchors })

/-- Adds a node that is left out. -/
def addEmpty (ctx : Context) : NodeId × Context := ctx.add none (.scalar (plainTag "") "")

/-- Puts a node at a place. -/
def put (ctx : Context) (id : NodeId) (n : Node) : Context :=
  { ctx with graph := ctx.graph.put id n }

end Context

/-! ## Properties -/

/-- The name and the tag in front of a node, in either order. -/
structure Properties where
  anchor : Option String := none
  tag : Option RawTag := none

/-- Takes the name and the tag in front of a node. After the first of them the next token is looked
at. -/
def properties (ctx : Context) : Except Fault (Properties × Context) :=
  match ctx.tokens with
  | .anchor a :: .tag t :: rest => .ok (⟨some a, some t⟩, { ctx with tokens := rest })
  | .tag t :: .anchor a :: rest => .ok (⟨some a, some t⟩, { ctx with tokens := rest })
  | .anchor _ :: .broken f :: _ => .error f
  | .tag _ :: .broken f :: _ => .error f
  | .anchor a :: rest => .ok (⟨some a, none⟩, { ctx with tokens := rest })
  | .tag t :: rest => .ok (⟨none, some t⟩, { ctx with tokens := rest })
  | _ => .ok ({}, ctx)

/-- The tag that a written tag stands for. -/
def resolveTag (ctx : Context) (t : RawTag) : Except Fault String :=
  match t.handle with
  | none => .ok t.suffix
  | some h =>
    match ctx.handles.lookup h with
    | some meaning => .ok (meaning ++ t.suffix)
    | none => .error .malformed

/-- The tag in front of a node, if there is one. -/
def resolveProperty (ctx : Context) (props : Properties) : Except Fault (Option String) :=
  match props.tag with
  | none => .ok none
  | some t => (resolveTag ctx t).map some

/-- A tag that leaves the kind of a node open. -/
def isOpenTag : Option String → Bool
  | none => true
  | some t => t == "!"

/-- The tag of a scalar. A plain one without a tag is looked at, and so is any one with the open
tag. -/
def scalarTag (tag : Option String) (text : String) (isPlain : Bool) : String :=
  match tag with
  | none => if isPlain then plainTag text else textTag
  | some t => if t == "!" then plainTag text else t

/-- The tag of a collection. -/
def collectionTag (tag : Option String) (default : String) : String :=
  if isOpenTag tag then default else tag.getD default

/-- An alias: the place of the node that it names. -/
def aliased (ctx : Context) (name : String) : Compose NodeId :=
  match ctx.anchors.lookup name with
  | some id => .ok (id, ctx.skip)
  | none => .error .malformed

/-- A scalar with its properties. -/
def addScalar (ctx : Context) (props : Properties) (tag : Option String) (text : String)
    (isPlain : Bool) : NodeId × Context :=
  ctx.add props.anchor (.scalar (scalarTag tag text isPlain) text)

/-- A sequence with its properties, whose items are read after its name is known. -/
def withItems (ctx : Context) (props : Properties) (tag : Option String)
    (items : Context → Compose (List NodeId)) : Compose NodeId :=
  let sequence := Node.sequence (collectionTag tag sequenceTag)
  let (id, ctx) := ctx.add props.anchor (sequence [])
  (items ctx).map fun (ids, ctx) => (id, ctx.put id (sequence ids))

/-- A mapping with its properties, whose entries are read after its name is known. -/
def withEntries (ctx : Context) (props : Properties) (tag : Option String)
    (entries : Context → Compose (List (NodeId × NodeId))) : Compose NodeId :=
  let mapping := Node.mapping (collectionTag tag mappingTag)
  let (id, ctx) := ctx.add props.anchor (mapping [])
  (entries ctx).map fun (ids, ctx) => (id, ctx.put id (mapping ids))

/-! ## Nodes -/

/-- Where a node stands: in a block, as the key or value of a block mapping, where a list needs no
deeper indentation, or inside brackets. -/
inductive Place where
  | block
  | blockEntry
  | flow
  deriving DecidableEq

/-- A token that ends a left-out item of a block sequence. -/
def endsItem : List Token → Bool
  | .blockEntry :: _ | .blockEnd :: _ => true
  | _ => false

/-- A token that ends a left-out key or value of a block mapping. -/
def endsEntry : List Token → Bool
  | .key :: _ | .value :: _ | .blockEnd :: _ => true
  | _ => false

/-- A token that ends a left-out node inside brackets, `close` being the closing one. -/
def endsFlow (inSequence : Bool) : List Token → Bool
  | .flowEntry :: _ => true
  | .flowSequenceEnd :: _ => inSequence
  | .flowMappingEnd :: _ => !inSequence
  | _ => false

/-- A token that ends a left-out key inside brackets. -/
def endsFlowKey (inSequence : Bool) : List Token → Bool
  | .value :: _ => true
  | ts => endsFlow inSequence ts

/-- The place after the comma between items or entries; the first one has none in front. -/
def separated (first : Bool) (ctx : Context) : Except Fault Context :=
  if first then .ok ctx
  else
    match ctx.tokens with
    | .flowEntry :: _ => .ok ctx.skip
    | _ => .error ctx.fault

/-- A node that consists of its properties only: an empty scalar. -/
def leftOut (ctx : Context) (props : Properties) (tag : Option String) : Compose NodeId :=
  if props.anchor.isSome || tag.isSome then .ok (addScalar ctx props tag "" (isOpenTag tag))
  else .error ctx.fault

mutual

/-- A node. The fuel bounds the number of steps. A name may be given only once, which is looked at
after the first token of the node itself. -/
def node (place : Place) : Nat → Context → Compose NodeId
  | 0, ctx => .error ctx.fault
  | fuel + 1, ctx =>
    match ctx.tokens with
    | .alias a :: _ => aliased ctx a
    | _ =>
      match properties ctx with
      | .error e => .error e
      | .ok (props, ctx) =>
        match resolveProperty ctx props, ctx.break? with
        | .error e, _ => .error e
        | .ok _, some f => .error f
        | .ok tag, none =>
          if props.anchor.any fun a => (ctx.anchors.lookup a).isSome then .error .malformed
          else nodeContent place props tag fuel ctx

/-- A node after its properties. -/
def nodeContent (place : Place) (props : Properties) (tag : Option String) :
    Nat → Context → Compose NodeId
  | 0, ctx => .error ctx.fault
  | fuel + 1, ctx =>
    match ctx.tokens with
    | .scalar text isPlain :: _ => .ok (addScalar ctx.skip props tag text isPlain)
    | .flowSequenceStart :: _ => withItems ctx.skip props tag (flowItems fuel true)
    | .flowMappingStart :: _ => withEntries ctx.skip props tag (flowEntries fuel true)
    | .blockSequenceStart :: _ =>
      if place == .flow then leftOut ctx props tag
      else withItems ctx.skip props tag (blockItems fuel)
    | .blockMappingStart :: _ =>
      if place == .flow then leftOut ctx props tag
      else withEntries ctx.skip props tag (blockEntries fuel)
    | .blockEntry :: _ =>
      if place == .blockEntry then withItems ctx props tag (levelItems fuel)
      else leftOut ctx props tag
    | _ => leftOut ctx props tag

/-- The items of a block sequence up to and with its end. -/
def blockItems : Nat → Context → Compose (List NodeId)
  | 0, ctx => .error ctx.fault
  | fuel + 1, ctx =>
    match ctx.tokens with
    | .blockEnd :: _ => .ok ([], ctx.skip)
    | .blockEntry :: rest =>
      let item : Compose NodeId :=
        if endsItem rest then .ok ctx.skip.addEmpty else node .block fuel ctx.skip
      match item with
      | .error e => .error e
      | .ok (n, ctx) => (blockItems fuel ctx).map fun (ns, ctx) => (n :: ns, ctx)
    | _ => .error ctx.fault

/-- The items of a list on the level of the mapping around it. -/
def levelItems : Nat → Context → Compose (List NodeId)
  | 0, ctx => .error ctx.fault
  | fuel + 1, ctx =>
    match ctx.tokens with
    | .blockEntry :: rest =>
      let item : Compose NodeId :=
        if endsItem rest || endsEntry rest then .ok ctx.skip.addEmpty
        else node .block fuel ctx.skip
      match item with
      | .error e => .error e
      | .ok (n, ctx) => (levelItems fuel ctx).map fun (ns, ctx) => (n :: ns, ctx)
    | _ => .ok ([], ctx)

/-- The entries of a block mapping up to and with its end. -/
def blockEntries : Nat → Context → Compose (List (NodeId × NodeId))
  | 0, ctx => .error ctx.fault
  | fuel + 1, ctx =>
    match ctx.tokens with
    | .blockEnd :: _ => .ok ([], ctx.skip)
    | .key :: rest =>
      let key : Compose NodeId :=
        if endsEntry rest then .ok ctx.skip.addEmpty else node .blockEntry fuel ctx.skip
      match key with
      | .error e => .error e
      | .ok (k, ctx) =>
        let value : Compose NodeId := match ctx.tokens with
          | .value :: rest =>
            if endsEntry rest then .ok ctx.skip.addEmpty else node .blockEntry fuel ctx.skip
          | _ => .ok ctx.addEmpty
        match value with
        | .error e => .error e
        | .ok (v, ctx) => (blockEntries fuel ctx).map fun (es, ctx) => ((k, v) :: es, ctx)
    | _ => .error ctx.fault

/-- The value inside brackets after its key. -/
def flowValue (inSequence : Bool) : Nat → Context → Compose NodeId
  | 0, ctx => .error ctx.fault
  | fuel + 1, ctx =>
    match ctx.tokens with
    | .value :: rest =>
      if endsFlow inSequence rest then .ok ctx.skip.addEmpty else node .flow fuel ctx.skip
    | _ => .ok ctx.addEmpty

/-- The items of a sequence in brackets up to and with the closing one. An item may be a single
entry of a mapping. -/
def flowItems : Nat → Bool → Context → Compose (List NodeId)
  | 0, _, ctx => .error ctx.fault
  | fuel + 1, first, ctx =>
    match ctx.tokens with
    | .flowSequenceEnd :: _ => .ok ([], ctx.skip)
    | _ =>
      match separated first ctx with
      | .error e => .error e
      | .ok ctx =>
        match ctx.tokens with
        | .flowSequenceEnd :: _ => .ok ([], ctx.skip)
        | .key :: rest =>
          let key : Compose NodeId :=
            if endsFlowKey true rest then .ok ctx.skip.addEmpty else node .flow fuel ctx.skip
          match key with
          | .error e => .error e
          | .ok (k, ctx) =>
            match flowValue true fuel ctx with
            | .error e => .error e
            | .ok (v, ctx) =>
              let (entry, ctx) := ctx.add none (.mapping mappingTag [(k, v)])
              (flowItems fuel false ctx).map fun (ns, ctx) => (entry :: ns, ctx)
        | _ =>
          match node .flow fuel ctx with
          | .error e => .error e
          | .ok (n, ctx) => (flowItems fuel false ctx).map fun (ns, ctx) => (n :: ns, ctx)

/-- The entries of a mapping in braces up to and with the closing one. A node alone is a key without
a value. -/
def flowEntries : Nat → Bool → Context → Compose (List (NodeId × NodeId))
  | 0, _, ctx => .error ctx.fault
  | fuel + 1, first, ctx =>
    match ctx.tokens with
    | .flowMappingEnd :: _ => .ok ([], ctx.skip)
    | _ =>
      match separated first ctx with
      | .error e => .error e
      | .ok ctx =>
        match ctx.tokens with
        | .flowMappingEnd :: _ => .ok ([], ctx.skip)
        | .key :: rest =>
          let key : Compose NodeId :=
            if endsFlowKey false rest then .ok ctx.skip.addEmpty else node .flow fuel ctx.skip
          match key with
          | .error e => .error e
          | .ok (k, ctx) =>
            match flowValue false fuel ctx with
            | .error e => .error e
            | .ok (v, ctx) => (flowEntries fuel false ctx).map fun (es, ctx) => ((k, v) :: es, ctx)
        | _ =>
          match node .flow fuel ctx with
          | .error e => .error e
          | .ok (k, ctx) =>
            let (v, ctx) := ctx.addEmpty
            (flowEntries fuel false ctx).map fun (es, ctx) => ((k, v) :: es, ctx)

end

/-! ## Documents -/

/-- The directives in front of a document: at most one version, which has to be a first one, and at
most one meaning for each tag handle. A directive is looked at before the next one is read. -/
def directives (versionSeen : Bool) (handles : List (String × String)) :
    List Token → Except Fault (List (String × String) × List Token)
  | .directive (.version major) :: rest =>
    if versionSeen || major != 1 then .error .malformed else directives true handles rest
  | .directive (.tagHandle handle meaning) :: rest =>
    if (handles.lookup handle).isSome then .error .malformed
    else directives versionSeen ((handle, meaning) :: handles) rest
  | .directive .other :: rest => directives versionSeen handles rest
  | tokens => .ok (handles, tokens)

/-- Tokens without the ends of documents in front. -/
def dropDocumentEnds : List Token → List Token
  | .documentEnd :: rest => dropDocumentEnds rest
  | tokens => tokens

/-- The fault of a text whose first document is followed by these tokens, if there is one: nothing but
the ends of documents may follow. Directives of a further document are still read. -/
def faultAfter? (tokens : List Token) : Option Fault :=
  match dropDocumentEnds tokens with
  | [.streamEnd] => none
  | rest =>
    match directives false [] rest with
    | .error e => some e
    | .ok (_, .broken f :: _) => some f
    | .ok _ => some .malformed

/-- The content of a document that begins with a boundary. -/
def explicitContent (ctx : Context) : Compose NodeId :=
  match ctx.tokens with
  | .directive _ :: _ | .documentStart :: _ | .documentEnd :: _ | .streamEnd :: _ =>
    .ok ctx.addEmpty
  | tokens => node .block (4 * tokens.length + 4) ctx

/-- The root of the first document of a text and what follows it. -/
def firstDocument (tokens : List Token) : Compose NodeId :=
  match tokens with
  | .directive _ :: _ | .documentStart :: _ =>
    match directives false [] tokens with
    | .error e => .error e
    | .ok (handles, .documentStart :: rest) =>
      explicitContent { tokens := rest, handles := handles ++ defaultHandles }
    | .ok (_, .broken f :: _) => .error f
    | .ok _ => .error .malformed
  | _ => node .block (4 * tokens.length + 4) { tokens := tokens, handles := defaultHandles }

/-- The root of the only document of a text and its nodes, if it has one. -/
def root? (tokens : List Token) : Except Fault (Option (NodeId × Graph)) :=
  match tokens with
  | [.streamEnd] => .ok none
  | _ =>
    match firstDocument tokens with
    | .error e => .error e
    | .ok (id, ctx) =>
      match faultAfter? ctx.tokens with
      | some f => .error f
      | none => .ok (some (id, ctx.graph))

end Scaffold.Yaml
