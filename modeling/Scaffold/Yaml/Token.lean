import Scaffold.Text.Utf8
import Scaffold.Yaml.Scalar

/-!
# YAML tokens

The words of a YAML text: indicators, the starts and ends of indented collections, anchors, tags,
directives and scalars. This module holds the tokens themselves and the readers of those that do not
depend on the tokens before them.
-/

namespace Scaffold.Yaml

/-! ## Tokens -/

/-- A tag as written: a handle and what follows it. A tag without a handle is complete. -/
structure RawTag where
  handle : Option String
  suffix : String

/-- A directive. -/
inductive Directive where
  | version (major : Nat)
  | tagHandle (handle meaning : String)
  | other

/-- A token. -/
inductive Token where
  | streamEnd
  | directive (d : Directive)
  | documentStart
  | documentEnd
  | blockSequenceStart
  | blockMappingStart
  | blockEnd
  | flowSequenceStart
  | flowSequenceEnd
  | flowMappingStart
  | flowMappingEnd
  | blockEntry
  | flowEntry
  | key
  | value
  | alias (name : String)
  | anchor (name : String)
  | tag (t : RawTag)
  | scalar (text : String) (isPlain : Bool)
  /-- The text breaks the rules here, so nothing more can be read. -/
  | broken (fault : Fault)

/-! ## Names -/

/-- A nonempty name, and the place after it. -/
def name? (c : Cursor) : Except Fault (String × Cursor) :=
  let (name, next) := c.span isNameChar
  if name.isEmpty then .error .malformed else .ok (String.ofList name, next)

/-- The name of an anchor or an alias; the cursor is at its indicator. -/
def anchorName (c : Cursor) : Except Fault (String × Cursor) :=
  match name? c.step with
  | .error e => .error e
  | .ok (name, next) =>
    if isGap next.first || "?:,]\x7d%@\x60".toList.contains next.first then .ok (name, next)
    else .error .malformed

/-! ## Tags -/

/-- A character of a tag that stands for itself. -/
def isTagChar (c : Char) : Bool :=
  isNameChar c || ";/?:@&=+$,_.!~*'()[]".toList.contains c

/-- A run of escaped bytes in a tag. -/
def tagBytes : Nat → List Nat → Cursor → Except Fault (List Nat × Cursor)
  | 0, bytes, c => .ok (bytes, c)
  | fuel + 1, bytes, c =>
    if c.first == '%' then
      let digits := c.step.rest.take 2
      if digits.length == 2 && digits.all isHexDigit then
        tagBytes fuel (bytes ++ [(digitsFrom? 16 0 digits).getD 0]) (c.advance 3)
      else .error .malformed
    else .ok (bytes, c)

/-- The characters of a tag, escaped ones decoded. -/
def tagChars : Nat → List Char → Cursor → Except Fault (List Char × Cursor)
  | 0, text, c => .ok (text, c)
  | fuel + 1, text, c =>
    if c.first == '%' then
      match tagBytes (c.rest.length + 1) [] c with
      | .error e => .error e
      | .ok (bytes, next) =>
        match Utf8.charsFrom 0 bytes with
        | .ok chars => tagChars fuel (text ++ chars) next
        | .error _ => .error .malformed
    else if isTagChar c.first then tagChars fuel (text ++ [c.first]) c.step
    else .ok (text, c)

/-- The nonempty text of a tag. Escapes that stand for no character count as text. -/
def tagText (c : Cursor) : Except Fault (String × Cursor) :=
  if isTagChar c.first || c.first == '%' then
    (tagChars (c.rest.length + 1) [] c).map fun (text, next) => (String.ofList text, next)
  else .error .malformed

/-- A tag handle: an exclamation mark, or a name between two. -/
def tagHandle (c : Cursor) : Except Fault (String × Cursor) :=
  if c.first != '!' then .error .malformed
  else if c.peek 1 == ' ' then .ok ("!", c.step)
  else
    let (name, next) := c.step.span isNameChar
    if next.first == '!' then .ok ("!" ++ String.ofList name ++ "!", next.step)
    else .error .malformed

/-- A tag; the cursor is at its exclamation mark. -/
def rawTag (c : Cursor) : Except Fault (RawTag × Cursor) :=
  let next := c.peek 1
  let result : Except Fault (RawTag × Cursor) :=
    if next == '<' then
      match tagText (c.advance 2) with
      | .error e => .error e
      | .ok (suffix, c) =>
        if c.first == '>' then .ok (⟨none, suffix⟩, c.step) else .error .malformed
    else if isGap next then .ok (⟨none, "!"⟩, c.step)
    else
      let hasHandle := (c.step.rest.takeWhile fun ch => !isSpaceOrEnd ch).contains '!'
      let handle := if hasHandle then tagHandle c else .ok ("!", c.step)
      match handle with
      | .error e => .error e
      | .ok (handle, c) => (tagText c).map fun (suffix, c) => (⟨some handle, suffix⟩, c)
  match result with
  | .error e => .error e
  | .ok (tag, c) => if isSpaceOrEnd c.first then .ok (tag, c) else .error .malformed

/-! ## Directives -/

/-- A whole number of a version, and the place after it. -/
def versionNumber (c : Cursor) : Except Fault (Nat × Cursor) :=
  let (digits, next) := c.span isDecimalDigit
  if digitLimit < digits.length then .error (.scalar (TooManyDigits.message ⟨digits.length⟩))
  else
    match ofDigits? 10 digits with
    | some n => .ok (n, next)
    | none => .error .malformed

/-- The body of a version directive. -/
def versionBody (c : Cursor) : Except Fault (Directive × Cursor) :=
  match versionNumber (c.skip (· == ' ')) with
  | .error e => .error e
  | .ok (major, c) =>
    if c.first != '.' then .error .malformed
    else
      match versionNumber c.step with
      | .error e => .error e
      | .ok (_, c) =>
        if isSpaceOrEnd c.first then .ok (.version major, c) else .error .malformed

/-- The body of a directive that gives a tag handle its meaning. -/
def tagHandleBody (c : Cursor) : Except Fault (Directive × Cursor) :=
  match tagHandle (c.skip (· == ' ')) with
  | .error e => .error e
  | .ok (handle, c) =>
    if c.first != ' ' then .error .malformed
    else
      match tagText (c.skip (· == ' ')) with
      | .error e => .error e
      | .ok (meaning, c) =>
        if isSpaceOrEnd c.first then .ok (.tagHandle handle meaning, c) else .error .malformed

/-- A directive with the rest of its line; the cursor is at its percent sign. -/
def directive (c : Cursor) : Except Fault (Directive × Cursor) :=
  match name? c.step with
  | .error e => .error e
  | .ok (name, c) =>
    if !isSpaceOrEnd c.first then .error .malformed
    else
      let body : Except Fault (Directive × Cursor) :=
        if name == "YAML" then versionBody c
        else if name == "TAG" then tagHandleBody c
        else .ok (.other, c.skip (!isLineEnd ·))
      match body with
      | .error e => .error e
      | .ok (d, c) => c.endLine.map fun c => (d, c)

end Scaffold.Yaml
