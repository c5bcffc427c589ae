import Scaffold.Text.CodePoint
import Scaffold.Yaml.Cursor

/-!
# Scalar texts in YAML

The four ways of writing a scalar: plain, in single or double quotes, and as an indented block that
keeps or folds its lines. Each reader returns the text of the scalar and the place after it.
-/

namespace Scaffold.Yaml

/-! ## Folding -/

/-- The breaks that a run of line breaks stands for: a single line feed becomes a space, of several
the first is dropped, and a line or paragraph separator is kept. -/
def foldBreaks (firstBreak : Char) (others : List Char) : List Char :=
  if firstBreak != '\n' then firstBreak :: others
  else if others.isEmpty then [' ']
  else others

/-! ## Plain scalars -/

/-- The number of characters of a plain scalar up to a gap or an indicator that ends it. -/
def plainLength (flow : Bool) : List Char → Nat
  | [] => 0
  | c :: rest =>
    let next := rest.headD '\x00'
    let endsKey := c == ':' && (isGap next || (flow && ",[]\x7b\x7d".toList.contains next))
    if isGap c || endsKey || (flow && ",?[]\x7b\x7d".toList.contains c) then 0
    else plainLength flow rest + 1

/-- What follows a line of a plain scalar: the text that joins it to the next line, the place of that
line, and whether a line was ended. An empty text ends the scalar. -/
structure PlainGap where
  text : List Char
  cursor : Cursor
  brokeLine : Bool

/-- The spaces and further breaks after the first break of a gap. -/
def plainBreaks (firstBreak : Char) : Nat → List Char → Cursor → PlainGap
  | 0, _, c => ⟨[], c, true⟩
  | fuel + 1, breaks, c =>
    let c := c.skip (· == ' ')
    match c.lineBreak? with
    | some (b, next) =>
      if next.atBoundary then ⟨[], next, true⟩
      else plainBreaks firstBreak fuel (breaks ++ [b]) next
    | none => ⟨foldBreaks firstBreak breaks, c, true⟩

/-- The gap after a line of a plain scalar. -/
def plainGap (c : Cursor) : PlainGap :=
  let (spaces, c) := c.span (· == ' ')
  match c.lineBreak? with
  | some (b, next) =>
    if next.atBoundary then ⟨[], next, true⟩
    else plainBreaks b (next.rest.length + 1) [] next
  | none => ⟨spaces, c, false⟩

/-- A plain scalar from the given place on: `text` has been read and `gap` may join it to more. The
flag tells whether the last gap ended a line. -/
def plainFrom (flow : Bool) (indent : Int) :
    Nat → List Char → List Char → Cursor → Bool → List Char × Cursor × Bool
  | 0, text, _, c, broke => (text, c, broke)
  | fuel + 1, text, gap, c, broke =>
    let size := if c.first == '#' then 0 else plainLength flow c.rest
    if size == 0 then (text, c, broke)
    else
      let text := text ++ gap ++ c.rest.take size
      let g := plainGap (c.advance size)
      if g.text.isEmpty || g.cursor.first == '#' || (!flow && g.cursor.column < indent) then
        (text, g.cursor, g.brokeLine)
      else plainFrom flow indent fuel text g.text g.cursor g.brokeLine

/-- A plain scalar; in a block its further lines stand deeper than `parent`. -/
def plain (flow : Bool) (parent : Int) (c : Cursor) : String × Cursor × Bool :=
  let (text, next, broke) := plainFrom flow (parent + 1) (c.rest.length + 1) [] [] c false
  (String.ofList text, next, broke)

/-! ## Quoted scalars -/

/-- The breaks inside a quoted scalar after its first one, and the place of the next line. A document
boundary may not stand there. -/
def quotedBreaks : Nat → List Char → Cursor → Except Fault (List Char × Cursor)
  | 0, breaks, c => .ok (breaks, c)
  | fuel + 1, breaks, c =>
    if c.atBoundary then .error .malformed
    else
      let c := c.skip isSpaceOrTab
      match c.lineBreak? with
      | some (b, next) => quotedBreaks fuel (breaks ++ [b]) next
      | none => .ok (breaks, c)

/-- The white space inside a quoted scalar: kept on a line, folded over lines. -/
def quotedGap (c : Cursor) : Except Fault (List Char × Cursor) :=
  let (spaces, c) := c.span isSpaceOrTab
  match c.lineBreak? with
  | some (b, next) =>
    (quotedBreaks (next.rest.length + 1) [] next).map fun (breaks, c) => (foldBreaks b breaks, c)
  | none => if c.first == '\x00' then .error .malformed else .ok (spaces, c)

/-- The characters that single-letter escapes stand for. -/
def letterEscapes : List (Char × Char) := [
  ('0', '\x00'), ('a', '\x07'), ('b', '\x08'), ('t', '\t'), ('\t', '\t'), ('n', '\n'),
  ('v', '\x0b'), ('f', '\x0c'), ('r', '\r'), ('e', '\x1b'), (' ', ' '), ('"', '"'), ('\\', '\\'),
  ('/', '/'), ('N', '\u0085'), ('_', '\u00a0'), ('L', '\u2028'), ('P', '\u2029')]

/-- The number of digits of a numeric escape. -/
def escapeDigits? (c : Char) : Option Nat :=
  if c == 'x' then some 2 else if c == 'u' then some 4 else if c == 'U' then some 8 else none

/-- A number that is a code point. -/
def codePoint (n : Nat) : Except Fault Nat :=
  if n ≤ 0x10FFFF then .ok n
  else if n < 0x80000000 then .error (.scalar "chr() arg not in range(0x110000)")
  else .error .escapeTooLarge

/-- The code points that an escape stands for; the cursor is after the backslash. An escaped line
break stands for the breaks after it. -/
def escaped (c : Cursor) : Except Fault (List Nat × Cursor) :=
  match letterEscapes.lookup c.first, escapeDigits? c.first with
  | some ch, _ => .ok ([ch.toNat], c.step)
  | none, some count =>
    let c := c.step
    let digits := c.rest.take count
    if digits.length == count && digits.all isHexDigit then
      (codePoint ((digitsFrom? 16 0 digits).getD 0)).map fun n => ([n], c.advance count)
    else .error .malformed
  | none, none =>
    match c.lineBreak? with
    | some (_, next) =>
      (quotedBreaks (next.rest.length + 1) [] next).map fun (breaks, c) => (breaks.map Char.toNat, c)
    | none => .error .malformed

/-- The rest of a scalar in double quotes, up to and with the closing quote; `text` holds the code
points so far. Escapes of two surrogates next to each other stand for one character. -/
def doubleQuotedFrom : Nat → List Nat → Cursor → Except Fault (List Char × Cursor)
  | 0, _, _ => .error .malformed
  | fuel + 1, text, c =>
    let ch := c.first
    if ch == '"' then
      match Text.codePointChars? text with
      | some cs => .ok (cs, c.step)
      | none => .error .surrogate
    else if ch == '\\' then
      match escaped c.step with
      | .ok (part, next) => doubleQuotedFrom fuel (text ++ part) next
      | .error e => .error e
    else if isGap ch then
      match quotedGap c with
      | .ok (part, next) => doubleQuotedFrom fuel (text ++ part.map Char.toNat) next
      | .error e => .error e
    else doubleQuotedFrom fuel (text ++ [ch.toNat]) c.step

/-- The rest of a scalar in single quotes, up to and with the closing quote. A quote inside is
written twice. -/
def singleQuotedFrom : Nat → List Char → Cursor → Except Fault (List Char × Cursor)
  | 0, _, _ => .error .malformed
  | fuel + 1, text, c =>
    let ch := c.first
    if ch == '\'' then
      if c.peek 1 == '\'' then singleQuotedFrom fuel (text ++ ['\'']) (c.advance 2)
      else .ok (text, c.step)
    else if isGap ch then
      match quotedGap c with
      | .ok (part, next) => singleQuotedFrom fuel (text ++ part) next
      | .error e => .error e
    else singleQuotedFrom fuel (text ++ [ch]) c.step

/-- A scalar in quotes; the cursor is at the opening one. -/
def quoted (c : Cursor) : Except Fault (String × Cursor) :=
  let fuel := c.rest.length + 1
  let result :=
    if c.first == '"' then doubleQuotedFrom fuel [] c.step else singleQuotedFrom fuel [] c.step
  result.map fun (text, next) => (String.ofList text, next)

/-! ## Block scalars -/

/-- What becomes of the line breaks at the end of a block scalar. -/
inductive Chomping where
  /-- None stays. -/
  | strip
  /-- One stays. -/
  | clip
  /-- All stay. -/
  | keep

/-- The sign that asks for a way of chomping. -/
def chompingSign? (c : Char) : Option Chomping :=
  if c == '+' then some .keep else if c == '-' then some .strip else none

/-- The digit that gives the indentation of a block scalar; zero is none. -/
def indentDigit? (c : Cursor) : Except Fault (Option Nat × Cursor) :=
  if isDecimalDigit c.first then
    if c.first == '0' then .error .malformed
    else .ok (digitValue? 10 c.first, c.step)
  else .ok (none, c)

/-- The header of a block scalar after its indicator: a chomping sign and an indentation digit in
either order. -/
def blockHeader (c : Cursor) : Except Fault (Chomping × Option Nat × Cursor) :=
  match chompingSign? c.first with
  | some chomping => (indentDigit? c.step).map fun (digit, c) => (chomping, digit, c)
  | none =>
    (indentDigit? c).map fun (digit, c) =>
      match digit, chompingSign? c.first with
      | some _, some chomping => (chomping, digit, c.step)
      | _, _ => (.clip, digit, c)

/-- The blank lines at the start of a block scalar without a given indentation: their breaks, the
widest column reached, and the place after them. -/
def blockStart : Nat → List Char → Nat → Cursor → List Char × Nat × Cursor
  | 0, breaks, widest, c => (breaks, widest, c)
  | fuel + 1, breaks, widest, c =>
    let c := c.skip (· == ' ')
    let widest := max widest c.column
    match c.lineBreak? with
    | some (b, next) => blockStart fuel (breaks ++ [b]) widest next
    | none => (breaks, widest, c)

/-- The place after at most as many spaces as lead to a column. -/
def skipIndent (indent : Nat) : Nat → Cursor → Cursor
  | 0, c => c
  | fuel + 1, c =>
    if c.column < indent && c.first == ' ' then skipIndent indent fuel c.step else c

/-- The blank lines before a line of a block scalar: their breaks and the place of the line's
text. -/
def blockBreaks (indent : Nat) : Nat → List Char → Cursor → List Char × Cursor
  | 0, breaks, c => (breaks, c)
  | fuel + 1, breaks, c =>
    let c := skipIndent indent indent c
    match c.lineBreak? with
    | some (b, next) => blockBreaks indent fuel (breaks ++ [b]) next
    | none => (breaks, c)

/-- The lines of a block scalar: `breaks` stand before the next one. Returns the text, the last
line's break, the breaks after it and the place after them. -/
def blockLines (folded : Bool) (indent : Nat) :
    Nat → List Char → List Char → Cursor → List Char × List Char × List Char × Cursor
  | 0, text, breaks, c => (text, [], breaks, c)
  | fuel + 1, text, breaks, c =>
    let leading := c.first
    let (line, c) := c.span (!isLineEnd ·)
    let text := text ++ breaks ++ line
    let (ending, c) := match c.lineBreak? with
      | some (b, next) => ([b], next)
      | none => ([], c)
    let (breaks, c) := blockBreaks indent (c.rest.length + 1) [] c
    if c.column == indent && c.first != '\x00' then
      let joined :=
        if folded && ending == ['\n'] && !isSpaceOrTab leading && !isSpaceOrTab c.first then
          if breaks.isEmpty then [' '] else []
        else ending
      blockLines folded indent fuel (text ++ joined) breaks c
    else (text, ending, breaks, c)

/-- A block scalar; the cursor is at its indicator, and its lines stand deeper than `parent`. -/
def block (parent : Int) (c : Cursor) : Except Fault (String × Cursor) :=
  let folded := c.first == '>'
  match blockHeader c.step with
  | .error e => .error e
  | .ok (chomping, digit, c) =>
    if !isSpaceOrEnd c.first then .error .malformed
    else
      match c.endLine with
      | .error e => .error e
      | .ok c =>
        let least := (max (parent + 1) 1).toNat
        let fuel := c.rest.length + 1
        let (indent, breaks, c) := match digit with
          | some n =>
            let indent := least + n - 1
            let (breaks, c) := blockBreaks indent fuel [] c
            (indent, breaks, c)
          | none =>
            let (breaks, widest, c) := blockStart fuel [] 0 c
            (max least widest, breaks, c)
        let (text, ending, breaks, c) :=
          if c.column == indent && c.first != '\x00' then blockLines folded indent fuel [] breaks c
          else ([], [], breaks, c)
        let tail := match chomping with
          | .strip => []
          | .clip => ending
          | .keep => ending ++ breaks
        .ok (String.ofList (text ++ tail), c)

end Scaffold.Yaml
