import Scaffold.Name.Words

/-!
# Labels

The text that a generated form shows for a name: its words with spaces between them, the first with
a capital, acronyms whole. `unitPrice` is `Unit price` and `imageURL` is `Image URL`.
-/

namespace Scaffold.Name

open Text

/-! ## Words of a label -/

/-- The character `c` and what follows it belong to one word; `afterCapital` tells whether a capital
stands before `c`. Small letters and digits go together. A capital takes the small letters after it,
and digits if it stands alone. Capitals go together, but the last one before a small letter opens the
next word. -/
def joinsLabel (afterCapital : Bool) (c : Char) : List Char → Bool
  | [] => false
  | d :: rest =>
    if isSmall c then isSmall d
    else if isLowerAscii d then true
    else if isDigitAscii d then !afterCapital
    else if isUpperAscii d then !(rest.head?.any isLowerAscii)
    else false

/-- The words of a label as written. -/
def splitLabel (afterCapital : Bool) : List Char → List (List Char)
  | [] => []
  | c :: rest =>
    if !isWordAscii c then splitLabel false rest
    else if joinsLabel afterCapital c rest then attach c (splitLabel (isUpperAscii c) rest)
    else [c] :: splitLabel (isUpperAscii c) rest

/-! ## Text of a label -/

/-- A word of more than one character with a capital and without small letters. -/
def isAcronym (word : List Char) : Bool :=
  1 < word.length && word.any isUpperAscii && !word.any isLowerAscii

/-- A word as a label shows it: acronyms stay, other words lose their capitals. -/
def labelWord (word : List Char) : List Char :=
  if isAcronym word then word else word.map lowerAscii

/-- The label of a name; a name without words is its own label. -/
def label (name : String) : String :=
  match splitLabel false name.toList with
  | [] => name
  | words => String.ofList (capitalize ([' '].intercalate (words.map labelWord)))

end Scaffold.Name
