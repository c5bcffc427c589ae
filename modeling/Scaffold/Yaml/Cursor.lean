import Scaffold.Value.Basic

/-!
# Places in a YAML text

A cursor holds the characters that are still to come and the place of the first of them. The end of
the text looks like a null character, which the text itself cannot hold. Carriage returns have been
turned into line feeds before.
-/

namespace Scaffold.Yaml

/-! ## Faults -/

/-- Why a text stands for no value. -/
inductive Fault where
  /-- The text breaks the rules of the notation. -/
  | malformed
  /-- A scalar stands for no value of its tag. -/
  | scalar (message : String)
  /-- An escape names a number far beyond all characters. -/
  | escapeTooLarge
  /-- An escape names a surrogate that stands alone. -/
  | surrogate
  /-- A numeral in base sixty has so many parts that the unit of one is beyond all numbers. -/
  | unitTooLarge
  /-- The text of a scalar is the own value of a mapping that contains itself. -/
  | endless
  /-- A scalar tagged as a truth value is none of its words. -/
  | truthWord
  /-- A scalar tagged as a number is empty. -/
  | emptyNumeral
  /-- A scalar tagged as a time does not look like one. -/
  | timeShape
  /-- A mapping is tagged as a time. -/
  | timeOfMapping
  deriving DecidableEq, Repr

/-! ## Characters -/

/-- A line break. -/
def isBreak (c : Char) : Bool := c == '\n' || c == '\u0085' || c == '\u2028' || c == '\u2029'

/-- A line break or the end of the text. -/
def isLineEnd (c : Char) : Bool := c == '\x00' || isBreak c

/-- A space, a line break or the end of the text. -/
def isSpaceOrEnd (c : Char) : Bool := c == ' ' || isLineEnd c

/-- A space, a tab, a line break or the end of the text. -/
def isGap (c : Char) : Bool := c == '\t' || isSpaceOrEnd c

/-- A space or a tab. -/
def isSpaceOrTab (c : Char) : Bool := c == ' ' || c == '\t'

/-- A character that may stand in a YAML text. -/
def isAllowed (c : Char) : Bool :=
  c == '\t' || c == '\n' || (' ' ≤ c && c ≤ '~') || c == '\u0085'
    || ('\u00A0' ≤ c && c.toNat ≤ 0xFFFD) || 0x10000 ≤ c.toNat

/-- A character of a directive, a tag handle or an anchor. -/
def isNameChar (c : Char) : Bool :=
  ('0' ≤ c && c ≤ '9') || ('A' ≤ c && c ≤ 'Z') || ('a' ≤ c && c ≤ 'z') || c == '-' || c == '_'

/-- A hexadecimal digit. -/
def isHexDigit (c : Char) : Bool := (digitValue? 16 c).isSome

/-! ## The cursor -/

/-- A place in a text. -/
structure Cursor where
  rest : List Char
  index : Nat := 0
  line : Nat := 0
  column : Nat := 0

namespace Cursor

/-- The character `i` places ahead. -/
def peek (c : Cursor) (i : Nat) : Char := (c.rest.drop i).headD '\x00'

/-- The first character. -/
def first (c : Cursor) : Char := c.rest.headD '\x00'

/-- The place after the first character. A byte-order mark takes no column. -/
def step (c : Cursor) : Cursor :=
  match c.rest with
  | [] => c
  | ch :: rest =>
    if isBreak ch then ⟨rest, c.index + 1, c.line + 1, 0⟩
    else ⟨rest, c.index + 1, c.line, if ch == '\uFEFF' then c.column else c.column + 1⟩

/-- The place after `n` characters. -/
def advance : Nat → Cursor → Cursor
  | 0, c => c
  | n + 1, c => advance n c.step

/-- The longest run of characters of a class in front, and the place after it. -/
def span (p : Char → Bool) (c : Cursor) : List Char × Cursor :=
  let run := c.rest.takeWhile p
  (run, c.advance run.length)

/-- The place after a run of characters of a class. -/
def skip (p : Char → Bool) (c : Cursor) : Cursor := (c.span p).2

/-- The line break in front and the place after it. All but the line and paragraph separators read
as line feeds. -/
def lineBreak? (c : Cursor) : Option (Char × Cursor) :=
  if c.first == '\n' || c.first == '\u0085' then some ('\n', c.step)
  else if c.first == '\u2028' || c.first == '\u2029' then some (c.first, c.step)
  else none

/-- The place after a line break, if there is one in front. -/
def skipBreak (c : Cursor) : Cursor :=
  match c.lineBreak? with
  | some (_, next) => next
  | none => c

/-- Three characters of one kind and a gap stand in front. -/
def atTriple (mark : Char) (c : Cursor) : Bool :=
  c.rest.take 3 == [mark, mark, mark] && isGap (c.peek 3)

/-- A document boundary stands in front. -/
def atBoundary (c : Cursor) : Bool := c.atTriple '-' || c.atTriple '.'

/-- The place after spaces and a comment. -/
def skipComment (c : Cursor) : Cursor :=
  let c := c.skip (· == ' ')
  if c.first == '#' then c.skip (!isLineEnd ·) else c

/-- The place after spaces, a comment and the end of the line; nothing else may stand there. -/
def endLine (c : Cursor) : Except Fault Cursor :=
  let c := c.skipComment
  if isLineEnd c.first then .ok c.skipBreak else .error .malformed

end Cursor

end Scaffold.Yaml
