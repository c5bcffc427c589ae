import Scaffold.Yaml.Token

/-!
# The tokens of a YAML text

Splitting a text into tokens. Collections in block style are told by their indentation, so the
starts and ends of such collections become tokens too. What stands before a colon becomes a key only
when the colon is reached; until then the place of each possible key is remembered, one for every
level of nesting in brackets.
-/

namespace Scaffold.Yaml

/-! ## State -/

/-- A place where a key may have begun: the number of tokens before it, whether a key has to stand
there, and its place in the text. -/
structure PossibleKey where
  level : Nat
  tokenCount : Nat
  required : Bool
  index : Nat
  line : Nat
  column : Nat

/-- The state between two tokens: the place in the text, the level of nesting in brackets, the column
of the innermost block collection and of those around it, whether a key may begin here, the possible
keys, and the tokens so far. -/
structure Progress where
  cursor : Cursor
  level : Nat := 0
  indent : Int := -1
  outerIndents : List Int := []
  keyAllowed : Bool := true
  possibleKeys : List PossibleKey := []
  tokens : Array Token := #[]

namespace Progress

/-- Inside brackets. -/
def inFlow (p : Progress) : Bool := p.level != 0

/-- Adds a token. -/
def push (p : Progress) (t : Token) : Progress := { p with tokens := p.tokens.push t }

/-- Adds a token that is `n` characters long. -/
def take (p : Progress) (n : Nat) (t : Token) : Progress :=
  { p with cursor := p.cursor.advance n, tokens := p.tokens.push t }

/-! ## Possible keys -/

/-- The greatest number of characters that a key may take. -/
def keyLimit : Nat := 1024

/-- A key that ended with its line or grew too long. -/
def isStale (p : Progress) (k : PossibleKey) : Bool :=
  k.line != p.cursor.line || k.index + keyLimit < p.cursor.index

/-- Forgets the possible keys that ended with their line or grew too long. A key that has to stand
there may not be forgotten. -/
def dropStaleKeys (p : Progress) : Except Fault Progress :=
  if p.possibleKeys.any fun k => p.isStale k && k.required then .error .malformed
  else .ok { p with possibleKeys := p.possibleKeys.filter fun k => !p.isStale k }

/-- Forgets the possible key of the current level. -/
def dropKey (p : Progress) : Except Fault Progress :=
  if p.possibleKeys.any fun k => k.level == p.level && k.required then .error .malformed
  else .ok { p with possibleKeys := p.possibleKeys.filter fun k => k.level != p.level }

/-- Remembers that a key may begin here, if it may. -/
def markKey (p : Progress) : Except Fault Progress :=
  if p.keyAllowed then
    p.dropKey.map fun p =>
      let c := p.cursor
      let required := !p.inFlow && p.indent == c.column
      { p with possibleKeys :=
          p.possibleKeys ++ [⟨p.level, p.tokens.size, required, c.index, c.line, c.column⟩] }
  else .ok p

/-! ## Indentation -/

/-- Ends the block collections that stand deeper than a column. -/
def unwindFrom (column : Int) (indent : Int) : List Int → Array Token → Int × List Int × Array Token
  | [], tokens => (indent, [], tokens)
  | outer :: rest, tokens =>
    if column < indent then unwindFrom column outer rest (tokens.push .blockEnd)
    else (indent, outer :: rest, tokens)

/-- Ends the block collections that stand deeper than a column. Indentation inside brackets has no
meaning. -/
def unwind (p : Progress) (column : Int) : Progress :=
  if p.inFlow then p
  else
    let (indent, outer, tokens) := unwindFrom column p.indent p.outerIndents p.tokens
    { p with indent := indent, outerIndents := outer, tokens := tokens }

/-- A block collection may begin at a column, because it is deeper than the one around it. -/
def startsBlock (p : Progress) (column : Nat) : Bool := !p.inFlow && p.indent < column

/-- Begins a block collection at a column with a token at a place among the tokens. -/
def startBlock (p : Progress) (column : Nat) (place : Nat) (t : Token) : Progress :=
  { p with
    outerIndents := p.indent :: p.outerIndents
    indent := column
    tokens := p.tokens.insertIdxIfInBounds place t }

/-! ## Tokens -/

/-- The place of the next token. A line break outside brackets allows a key. -/
def skipToToken : Nat → Progress → Progress
  | 0, p => p
  | fuel + 1, p =>
    let c := p.cursor.skipComment
    match c.lineBreak? with
    | some (_, next) =>
      skipToToken fuel { p with cursor := next, keyAllowed := p.keyAllowed || !p.inFlow }
    | none => { p with cursor := c }

/-- The end of the text. -/
def takeEnd (p : Progress) : Except Fault Progress :=
  ((p.unwind (-1)).dropKey).map fun (p : Progress) => p.push .streamEnd

/-- A directive. -/
def takeDirective (p : Progress) : Except Fault Progress :=
  match (p.unwind (-1)).dropKey with
  | .error e => .error e
  | .ok p =>
    (directive p.cursor).map fun (d, c) =>
      { p with cursor := c, keyAllowed := false, tokens := p.tokens.push (.directive d) }

/-- A document boundary. -/
def takeBoundary (p : Progress) (t : Token) : Except Fault Progress :=
  ((p.unwind (-1)).dropKey).map fun (p : Progress) => take { p with keyAllowed := false } 3 t

/-- An opening bracket. -/
def takeOpening (p : Progress) (t : Token) : Except Fault Progress :=
  p.markKey.map fun (p : Progress) => take { p with level := p.level + 1, keyAllowed := true } 1 t

/-- A closing bracket. One without an opening bracket is a fault. -/
def takeClosing (p : Progress) (t : Token) : Except Fault Progress :=
  match p.dropKey with
  | .error e => .error e
  | .ok p =>
    if p.level == 0 then .error .malformed
    else .ok (take { p with level := p.level - 1, keyAllowed := false } 1 t)

/-- A comma inside brackets. -/
def takeFlowEntry (p : Progress) : Except Fault Progress :=
  p.dropKey.map fun (p : Progress) => take { p with keyAllowed := true } 1 .flowEntry

/-- The dash of a list item. -/
def takeBlockEntry (p : Progress) : Except Fault Progress :=
  if !p.inFlow && !p.keyAllowed then .error .malformed
  else
    let column := p.cursor.column
    let p := if p.startsBlock column then p.startBlock column p.tokens.size .blockSequenceStart else p
    (dropKey { p with keyAllowed := true }).map fun (p : Progress) => p.take 1 .blockEntry

/-- The question mark of an explicit key. -/
def takeKey (p : Progress) : Except Fault Progress :=
  if !p.inFlow && !p.keyAllowed then .error .malformed
  else
    let column := p.cursor.column
    let p := if p.startsBlock column then p.startBlock column p.tokens.size .blockMappingStart else p
    (dropKey { p with keyAllowed := !p.inFlow }).map fun (p : Progress) => p.take 1 .key

/-- A colon. If a key may have begun on this level, it did, and its token goes where it began. -/
def takeValue (p : Progress) : Except Fault Progress :=
  match p.possibleKeys.find? fun k => k.level == p.level with
  | some k =>
    let p := { p with
      possibleKeys := p.possibleKeys.filter fun k => k.level != p.level
      tokens := p.tokens.insertIdxIfInBounds k.tokenCount .key }
    let p := if p.startsBlock k.column then p.startBlock k.column k.tokenCount .blockMappingStart else p
    .ok (take { p with keyAllowed := false } 1 .value)
  | none =>
    if !p.inFlow && !p.keyAllowed then .error .malformed
    else
      let column := p.cursor.column
      let p := if p.startsBlock column then p.startBlock column p.tokens.size .blockMappingStart else p
      (dropKey { p with keyAllowed := !p.inFlow }).map fun (p : Progress) => p.take 1 .value

/-- A token that a key may begin with, read by `reader`. -/
def takeWord (p : Progress) (reader : Cursor → Except Fault (Token × Cursor)) : Except Fault Progress :=
  match p.markKey with
  | .error e => .error e
  | .ok p =>
    (reader p.cursor).map fun (t, c) =>
      { p with cursor := c, keyAllowed := false, tokens := p.tokens.push t }

/-- A block scalar. -/
def takeBlockScalar (p : Progress) : Except Fault Progress :=
  match dropKey { p with keyAllowed := true } with
  | .error e => .error e
  | .ok p =>
    (block p.indent p.cursor).map fun (text, c) =>
      { p with cursor := c, tokens := p.tokens.push (.scalar text false) }

/-- A plain scalar. If it ended with a line, a key may follow. -/
def takePlain (p : Progress) : Except Fault Progress :=
  p.markKey.map fun p =>
    let (text, c, brokeLine) := plain p.inFlow p.indent p.cursor
    { p with cursor := c, keyAllowed := brokeLine, tokens := p.tokens.push (.scalar text true) }

/-- A plain scalar may begin here: not with an indicator, except with a dash, a question mark or a
colon that is no indicator because something follows it. -/
def startsPlain (p : Progress) : Bool :=
  let ch := p.cursor.first
  (!isGap ch && !"-?:,[]\x7b\x7d#&*!|>'\"%@\x60".toList.contains ch)
    || (!isGap (p.cursor.peek 1) && (ch == '-' || (!p.inFlow && (ch == '?' || ch == ':'))))

/-- The next token or tokens. -/
def next (p : Progress) : Except Fault Progress :=
  match (skipToToken (p.cursor.rest.length + 1) p).dropStaleKeys with
  | .error e => .error e
  | .ok p =>
    let p := p.unwind p.cursor.column
    let c := p.cursor
    let ch := c.first
    let atGap := isGap (c.peek 1)
    if ch == '\x00' then p.takeEnd
    else if ch == '%' && c.column == 0 then p.takeDirective
    else if c.column == 0 && c.atTriple '-' then p.takeBoundary .documentStart
    else if c.column == 0 && c.atTriple '.' then p.takeBoundary .documentEnd
    else if ch == '[' then p.takeOpening .flowSequenceStart
    else if ch == '\x7b' then p.takeOpening .flowMappingStart
    else if ch == ']' then p.takeClosing .flowSequenceEnd
    else if ch == '\x7d' then p.takeClosing .flowMappingEnd
    else if ch == ',' then p.takeFlowEntry
    else if ch == '-' && atGap then p.takeBlockEntry
    else if ch == '?' && (p.inFlow || atGap) then p.takeKey
    else if ch == ':' && (p.inFlow || atGap) then p.takeValue
    else if ch == '*' then
      p.takeWord fun c => (anchorName c).map fun (name, c) => (.alias name, c)
    else if ch == '&' then
      p.takeWord fun c => (anchorName c).map fun (name, c) => (.anchor name, c)
    else if ch == '!' then
      p.takeWord fun c => (rawTag c).map fun (t, c) => (.tag t, c)
    else if (ch == '|' || ch == '>') && !p.inFlow then p.takeBlockScalar
    else if ch == '\'' || ch == '"' then
      p.takeWord fun c => (quoted c).map fun (text, c) => (.scalar text false, c)
    else if p.startsPlain then p.takePlain
    else .error .malformed

/-- The number of tokens that are certain: a token stays uncertain while a key may have begun at it
or before it, because a mark may still be put in front of it. -/
def certainCount (p : Progress) : Nat :=
  let open? (k : PossibleKey) : Bool := k.required || !p.isStale k
  ((p.possibleKeys.filter open?).map PossibleKey.tokenCount).foldl min p.tokens.size

/-- All tokens from here to the end of the text, or to the place where it breaks the rules. -/
def run : Nat → Progress → List Token
  | 0, p => p.tokens.toList
  | fuel + 1, p =>
    match p.next with
    | .error e => p.tokens.toList.take p.certainCount ++ [.broken e]
    | .ok p =>
      match p.tokens.back? with
      | some .streamEnd => p.tokens.toList
      | _ => run fuel p

end Progress

/-- The tokens of a text. The last one is the end of the text or the place where it breaks the rules.
A byte-order mark in front is passed over. -/
def tokens (cs : List Char) : List Token :=
  if !cs.all isAllowed then [.broken .malformed]
  else
    let start : Cursor := { rest := cs }
    let start := if start.first == '\uFEFF' then start.step else start
    Progress.run (cs.length + 2) { cursor := start }

end Scaffold.Yaml
