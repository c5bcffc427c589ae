import Scaffold.Number.Notation
import Scaffold.Text.Case
import Scaffold.Text.Parts

/-!
# Styles

The words that ask for a style of shown text: attributes, a color, a background and a link. Different
words may ask for the same style, so a style has one normal text by which it is told apart.
-/

namespace Scaffold.Console

/-! ## Words -/

/-- The attributes of text in the order of normal texts, each with the words that ask for it. -/
def attributeWords : List (String × List String) := [
  ("bold", ["bold", "b"]), ("dim", ["dim", "d"]), ("italic", ["italic", "i"]),
  ("underline", ["underline", "u"]), ("blink", ["blink"]), ("blink2", ["blink2"]),
  ("reverse", ["reverse", "r"]), ("conceal", ["conceal", "c"]), ("strike", ["strike", "s"]),
  ("underline2", ["underline2", "uu"]), ("frame", ["frame"]), ("encircle", ["encircle"]),
  ("overline", ["overline", "o"])]

/-- The attribute that a word asks for. -/
def attributeOf? (word : String) : Option String :=
  (attributeWords.find? fun a => a.2.contains word).map Prod.fst

/-- The words of a text, between blanks. -/
def wordsFrom : List Char → List (List Char)
  | [] => [[]]
  | c :: rest =>
    match wordsFrom rest with
    | word :: words => if Text.isBlank c then [] :: word :: words else (c :: word) :: words
    | [] => [[c]]

/-- The nonempty words of a text. -/
def words (s : String) : List String :=
  ((wordsFrom s.toList).filter (!·.isEmpty)).map String.ofList

/-- The names of colors. -/
def colorNames : List String :=
  words "default
    aquamarine1 aquamarine3 black blue blue1 blue3 blue_violet bright_black bright_blue bright_cyan
    bright_green bright_magenta bright_red bright_white bright_yellow cadet_blue chartreuse1
    chartreuse2 chartreuse3 chartreuse4 cornflower_blue cornsilk1 cyan cyan1 cyan2 cyan3 dark_blue
    dark_cyan dark_goldenrod dark_green dark_khaki dark_magenta dark_olive_green1 dark_olive_green2
    dark_olive_green3 dark_orange dark_orange3 dark_red dark_sea_green dark_sea_green1
    dark_sea_green2 dark_sea_green3 dark_sea_green4 dark_slate_gray1 dark_slate_gray2
    dark_slate_gray3 dark_turquoise dark_violet deep_pink1 deep_pink2 deep_pink3 deep_pink4
    deep_sky_blue1 deep_sky_blue2 deep_sky_blue3 deep_sky_blue4 dodger_blue1 dodger_blue2
    dodger_blue3 gold1 gold3 gray0 gray100 gray11 gray15 gray19 gray23 gray27 gray3 gray30 gray35
    gray37 gray39 gray42 gray46 gray50 gray53 gray54 gray58 gray62 gray63 gray66 gray69 gray7 gray70
    gray74 gray78 gray82 gray84 gray85 gray89 gray93 green green1 green3 green4 green_yellow grey0
    grey100 grey11 grey15 grey19 grey23 grey27 grey3 grey30 grey35 grey37 grey39 grey42 grey46
    grey50 grey53 grey54 grey58 grey62 grey63 grey66 grey69 grey7 grey70 grey74 grey78 grey82 grey84
    grey85 grey89 grey93 honeydew2 hot_pink hot_pink2 hot_pink3 indian_red indian_red1 khaki1 khaki3
    light_coral light_cyan1 light_cyan3 light_goldenrod1 light_goldenrod2 light_goldenrod3
    light_green light_pink1 light_pink3 light_pink4 light_salmon1 light_salmon3 light_sea_green
    light_sky_blue1 light_sky_blue3 light_slate_blue light_slate_gray light_slate_grey
    light_steel_blue light_steel_blue1 light_steel_blue3 light_yellow3 magenta magenta1 magenta2
    magenta3 medium_orchid medium_orchid1 medium_orchid3 medium_purple medium_purple1 medium_purple2
    medium_purple3 medium_purple4 medium_spring_green medium_turquoise medium_violet_red misty_rose1
    misty_rose3 navajo_white1 navajo_white3 navy_blue orange1 orange3 orange4 orange_red1 orchid
    orchid1 orchid2 pale_green1 pale_green3 pale_turquoise1 pale_turquoise4 pale_violet_red1 pink1
    pink3 plum1 plum2 plum3 plum4 purple purple3 purple4 red red1 red3 rosy_brown royal_blue1
    salmon1 sandy_brown sea_green1 sea_green2 sea_green3 sky_blue1 sky_blue2 sky_blue3 slate_blue1
    slate_blue3 spring_green1 spring_green2 spring_green3 spring_green4 steel_blue steel_blue1
    steel_blue3 tan thistle1 thistle3 turquoise2 turquoise4 violet wheat1 wheat4 white yellow
    yellow1 yellow2 yellow3 yellow4"

/-- A number below 256. -/
def isByte (cs : List Char) : Bool := (ofDigits? 10 cs).any (· < 256)

/-- What stands in parentheses after a word, at the end of a text. -/
def argument? (word : String) (cs : List Char) : Option (List Char) :=
  let opening := word.toList ++ ['(']
  if opening.isPrefixOf cs && cs.getLast? == some ')' then
    some ((cs.drop opening.length).dropLast)
  else none

/-- A word that asks for a color: a name, six hexadecimal digits, the number of a color, or three
parts. -/
def isColor (word : String) : Bool :=
  let cs := word.toList
  let isHex := match cs with
    | '#' :: digits => digits.length == 6 && digits.all fun c => (digitValue? 16 c).isSome
    | _ => false
  let isNumbered := (argument? "color" cs).any fun digits => digits.length ≤ 3 && isByte digits
  let isMixed := (argument? "rgb" cs).any fun parts =>
    let parts := Text.partsBetween ',' parts
    parts.length == 3 && parts.all isByte
  colorNames.contains word || isHex || isNumbered || isMixed

/-! ## Styles -/

/-- A style: the attributes that are set, each on or off, a color, a background and a link. -/
structure Style where
  attributes : List (String × Bool) := []
  color : Option String := none
  background : Option String := none
  link : Option String := none

namespace Style

/-- A style with an attribute on or off. -/
def set (s : Style) (name : String) (on : Bool) : Style :=
  { s with attributes := (name, on) :: s.attributes }

/-- A style with what a single word asks for. -/
def withWord (s : Style) (word : String) : Option Style :=
  match attributeOf? word with
  | some name => some (s.set name true)
  | none => if isColor word then some { s with color := some word } else none

/-- A style with what words ask for, none if they make no sense. -/
def withWords : Style → List String → Option Style
  | s, [] => some s
  | s, [word] =>
    let word := Text.lower word
    if ["on", "not", "link"].contains word then none else s.withWord word
  | s, word :: next :: rest =>
    let word := Text.lower word
    if word == "on" then
      let color := Text.lower next
      if isColor color then withWords { s with background := some color } rest else none
    else if word == "not" then
      (attributeOf? next).bind fun name => withWords (s.set name false) rest
    else if word == "link" then withWords { s with link := some next } rest
    else (s.withWord word).bind fun s => withWords s (next :: rest)

/-- The normal text of a style. -/
def text (s : Style) : String :=
  let attributes := attributeWords.filterMap fun a =>
    (s.attributes.lookup a.1).map fun on => if on then a.1 else "not " ++ a.1
  let part (word : String) (value : Option String) := (value.map fun v => word ++ v).toList
  let parts := attributes ++ part "" s.color ++ part "on " s.background ++ part "link " s.link
  if parts.isEmpty then "none" else " ".intercalate parts

/-- The normal text of the style that a text asks for. A text that makes no sense as a style stands
for itself, whatever its capitals. -/
def normal (definition : String) : String :=
  if definition.isEmpty || Text.trim definition == "none" then "none"
  else
    match withWords {} (words definition) with
    | some s => s.text
    | none => Text.lower (Text.trim definition)

end Style

end Scaffold.Console
