import Scaffold.Console.PictographTable
import Scaffold.Console.Style
import Scaffold.Value.Display

/-!
# Console markup

Text with tags in brackets that set its style, and with names of pictographs between colons. This
module gives the text that is shown: tags are taken away, names of pictographs are replaced, and a
closing tag without an opening one is a fault.
-/

namespace Scaffold.Console

/-! ## Pictographs -/

/-- The character with a code point in hexadecimal digits. -/
def charOfHex (digits : List Char) : Char := Char.ofNat ((digitsFrom? 16 0 digits).getD 0)

/-- The pictograph with a name. -/
def pictograph? (name : List Char) : Option (List Char) :=
  let entry := name ++ ['=']
  ((wordsFrom pictographTable.toList).find? fun e => entry.isPrefixOf e).map fun e =>
    (Text.partsBetween '-' (e.drop entry.length)).map charOfHex

/-- The endings of names that ask for a way of showing a pictograph, with the character that does. -/
def variants : List (String × Char) := [("-emoji", '\uFE0F'), ("-text", '\uFE0E')]

/-- A name without an ending that asks for a way of showing, and the character for that way. -/
def splitVariant (name : List Char) : List Char × List Char :=
  match variants.find? fun v => v.1.toList.isSuffixOf name with
  | some (ending, mark) => (name.take (name.length - ending.length), [mark])
  | none => (name, [])

/-- The pictograph that a name between colons stands for. -/
def named? (name : List Char) : Option (List Char) :=
  let (name, mark) := splitVariant name
  (pictograph? (Text.lower (String.ofList name)).toList).map (· ++ mark)

/-- A character of a name between colons. -/
def isNamePart (c : Char) : Bool := c != ':' && !Text.isBlank c

/-- A text in which names between colons are replaced by the pictographs that they stand for. -/
def withPictographs : Nat → List Char → List Char
  | 0, cs => cs
  | _ + 1, [] => []
  | fuel + 1, c :: rest =>
    let name := rest.takeWhile isNamePart
    match c, rest.drop name.length with
    | ':', ':' :: after =>
      (named? name).getD (':' :: name ++ [':']) ++ withPictographs fuel after
    | _, _ => c :: withPictographs fuel rest

/-! ## Pieces -/

/-- A tag: a name, and what follows an equals sign after it. -/
structure Tag where
  name : List Char
  parameters : Option (List Char)

/-- A tag as it is written. -/
def Tag.written (t : Tag) : String :=
  "[" ++ String.ofList t.name ++ (t.parameters.map fun p => "=" ++ String.ofList p).getD "" ++ "]"

/-- A piece of markup: text, or a tag with the number of characters before it. -/
inductive Piece where
  | text (cs : List Char)
  | tag (position : Nat) (t : Tag)

/-- A character that a tag begins with. -/
def startsTag (c : Char) : Bool := Text.isLowerAscii c || c == '#' || c == '/' || c == '@'

/-- What stands between brackets at the start of a text, if it looks like a tag, and what follows. -/
def bracketed? : List Char → Option (List Char × List Char)
  | '[' :: cs =>
    let inside := cs.takeWhile fun c => c != '[' && c != ']'
    match inside, cs.drop inside.length with
    | c :: _, ']' :: rest => if startsTag c then some (inside, rest) else none
    | _, _ => none
  | _ => none

/-- A tag from what stands between its brackets. -/
def tagOf (inside : List Char) : Tag :=
  match inside.dropWhile (· != '=') with
  | [] => ⟨inside, none⟩
  | _ :: parameters => ⟨inside.takeWhile (· != '='), some parameters⟩

/-- Text without the characters `plain` that were read before, the last one first. -/
def flush (plain : List Char) : List Piece := if plain.isEmpty then [] else [.text plain.reverse]

/-- The pieces of markup from a position on; `plain` holds the characters of the current text, the
last one first. Of backslashes in front of a tag two stand for one, and an odd one makes the tag
text. -/
def piecesFrom : Nat → Nat → List Char → List Char → List Piece
  | 0, _, plain, _ => flush plain
  | _ + 1, _, plain, [] => flush plain
  | fuel + 1, position, plain, c :: rest =>
    let cs := c :: rest
    let slashes := (cs.takeWhile (· == '\\')).length
    match bracketed? (cs.drop slashes) with
    | none => piecesFrom fuel (position + 1) (c :: plain) rest
    | some (inside, after) =>
      let pairs := slashes / 2
      let literal := if pairs == 0 then [] else [.text (List.replicate pairs '\\')]
      let piece :=
        if slashes % 2 == 1 then .text ('[' :: inside ++ [']'])
        else .tag (position + 2 * pairs) (tagOf inside)
      flush plain ++ literal
        ++ piece :: piecesFrom fuel (position + slashes + inside.length + 2) [] after

/-- The pieces of markup. -/
def pieces (cs : List Char) : List Piece := piecesFrom (cs.length + 1) 0 [] cs

/-! ## Faults -/

/-- Why markup cannot be shown: a closing tag has no opening one, or the action of a link is no
call. -/
inductive MarkupFault where
  | unmatched (tag : String) (position : Nat)
  | nothingOpen (position : Nat)
  | action (parameters given : String)
  deriving DecidableEq, Repr

/-- The text of a fault. -/
def MarkupFault.message : MarkupFault → String
  | unmatched tag position =>
    "closing tag '" ++ tag ++ "' at position " ++ toString position ++ " doesn't match any open tag"
  | nothingOpen position =>
    "closing tag '[/]' at position " ++ toString position ++ " has nothing to close"
  | action parameters given =>
    "error parsing " ++ Quoted.text parameters ++ " in " ++ Quoted.text given ++ "; invalid syntax"

/-! ## Shown text -/

/-- A character of the name of an action. -/
def isActionChar (c : Char) : Bool :=
  Text.isWordAscii c || c == '_' || c == '.' || 0x80 ≤ c.toNat

/-- The action of a link is a name, arguments in parentheses, or both. -/
def isAction (cs : List Char) : Bool :=
  match cs.dropWhile isActionChar with
  | [] => true
  | '(' :: arguments => arguments.getLast? == some ')' && !arguments.contains '\n'
  | _ => false

/-- An opening tag that has been closed. The parameters of one for an action have to name it. -/
def checkClosed (t : Tag) : Except MarkupFault Unit :=
  match t.name, t.parameters with
  | '@' :: _, some given =>
    let parameters := Text.trimChars given
    if given.isEmpty || isAction parameters then .ok ()
    else .error (.action (String.ofList parameters) (String.ofList given))
  | _, _ => .ok ()

/-- The open tags without the last one with a name, and that one. -/
def close? (name : String) : List Tag → Option (Tag × List Tag)
  | [] => none
  | t :: rest =>
    if String.ofList t.name == name then some (t, rest)
    else (close? name rest).map fun (found, others) => (found, t :: others)

/-- The open tags after a tag; the last one comes first. An empty closing tag closes the last one. -/
def openAfter (opened : List Tag) (position : Nat) (t : Tag) : Except MarkupFault (List Tag) :=
  match t.name with
  | '/' :: name =>
    let name := Text.trim (String.ofList name)
    let closed : Except MarkupFault (Tag × List Tag) :=
      if name.isEmpty then
        match opened with
        | last :: rest => .ok (last, rest)
        | [] => .error (.nothingOpen position)
      else
        match close? (Style.normal name) opened with
        | some found => .ok found
        | none => .error (.unmatched t.written position)
    match closed with
    | .error e => .error e
    | .ok (last, rest) => (checkClosed last).map fun _ => rest
  | name => .ok ({ t with name := (Style.normal (String.ofList name)).toList } :: opened)

/-- Text in which an escaped bracket stands for itself. -/
def unescape : List Char → List Char
  | '\\' :: '[' :: rest => '[' :: unescape rest
  | c :: rest => c :: unescape rest
  | [] => []

/-- A control character that is not shown. -/
def isHidden (c : Char) : Bool := [7, 8, 11, 12, 13].contains c.toNat

/-- The text that is shown for pieces, after the given open tags. -/
def shownFrom (opened : List Tag) : List Piece → Except MarkupFault (List Char)
  | [] => .ok []
  | .text cs :: rest =>
    (shownFrom opened rest).map
      (((withPictographs (cs.length + 1) (unescape cs)).filter (!isHidden ·)) ++ ·)
  | .tag position t :: rest =>
    match openAfter opened position t with
    | .error e => .error e
    | .ok opened => shownFrom opened rest

/-- The text that is shown for markup. -/
def shownText (markup : String) : Except MarkupFault String :=
  (shownFrom [] (pieces markup.toList)).map String.ofList

end Scaffold.Console
