import Deobfuscator.Text.Blank
import Deobfuscator.Text.Digit
import Deobfuscator.Text.LowerCase
import Deobfuscator.Text.Numeral
import Deobfuscator.Text.Pieces

/-!
The styles that tags ask for. No style is ever drawn, but styles are read: a style is a run of words, and words that
mean nothing are passed over with all that follow. Only a color that is mixed of three parts must have a number for
each part.
-/

namespace Deobfuscator.Text

/-- The names of colors, with blanks between them. Shades of grey are not among them. -/
def colorNames : List String := [
  "black red green yellow blue magenta cyan white bright_black bright_red bright_green bright_yellow bright_blue",
  "bright_magenta bright_cyan bright_white navy_blue dark_blue blue3 blue1 dark_green deep_sky_blue4 dodger_blue3",
  "dodger_blue2 green4 spring_green4 turquoise4 deep_sky_blue3 dodger_blue1 green3 spring_green3 dark_cyan",
  "light_sea_green deep_sky_blue2 deep_sky_blue1 spring_green2 cyan3 dark_turquoise turquoise2 green1 spring_green1",
  "medium_spring_green cyan2 cyan1 dark_red deep_pink4 purple4 purple3 blue_violet orange4 medium_purple4",
  "slate_blue3 royal_blue1 chartreuse4 dark_sea_green4 pale_turquoise4 steel_blue steel_blue3 cornflower_blue",
  "chartreuse3 cadet_blue sky_blue3 steel_blue1 pale_green3 sea_green3 aquamarine3 medium_turquoise chartreuse2",
  "sea_green2 sea_green1 aquamarine1 dark_slate_gray2 dark_magenta dark_violet purple light_pink4 plum4",
  "medium_purple3 slate_blue1 yellow4 wheat4 light_slate_grey light_slate_gray medium_purple light_slate_blue",
  "dark_olive_green3 dark_sea_green light_sky_blue3 sky_blue2 dark_sea_green3 dark_slate_gray3 sky_blue1",
  "chartreuse1 light_green pale_green1 dark_slate_gray1 red3 medium_violet_red magenta3 dark_orange3 indian_red",
  "hot_pink3 medium_orchid3 medium_orchid medium_purple2 dark_goldenrod light_salmon3 rosy_brown medium_purple1",
  "gold3 dark_khaki navajo_white3 light_steel_blue3 light_steel_blue yellow3 dark_sea_green2 light_cyan3",
  "light_sky_blue1 green_yellow dark_olive_green2 dark_sea_green1 pale_turquoise1 deep_pink3 magenta2 hot_pink2",
  "orchid medium_orchid1 orange3 light_pink3 pink3 plum3 violet light_goldenrod3 tan misty_rose3 thistle3 plum2",
  "khaki3 light_goldenrod2 light_yellow3 light_steel_blue1 yellow2 dark_olive_green1 honeydew2 light_cyan1 red1",
  "deep_pink2 deep_pink1 magenta1 orange_red1 indian_red1 hot_pink dark_orange salmon1 light_coral pale_violet_red1",
  "orchid2 orchid1 orange1 sandy_brown light_salmon1 light_pink1 pink1 plum1 gold1 navajo_white1 misty_rose1",
  "thistle1 yellow1 light_goldenrod1 khaki1 wheat1 cornsilk1"]

/-- The shades of grey, from black to white. -/
def greyShades : List Nat := [
  0, 3, 7, 11, 15, 19, 23, 27, 30, 35, 37, 39, 42, 46, 50, 53, 54, 58, 62, 63, 66, 69, 70, 74, 78, 82, 84, 85, 89, 93,
  100]

def isColorName (name : String) : Bool :=
  name == "default" || colorNames.any (fun line => (words line.toList).contains name.toList) ||
    greyShades.any fun shade => name == "grey" ++ toString shade || name == "gray" ++ toString shade

/-- The words that ask for more than a color. -/
def styleAttributes : List String := ["dim", "d", "bold", "b", "italic", "i", "underline", "u", "underline2", "uu",
  "blink", "blink2", "reverse", "r", "conceal", "c", "strike", "s", "frame", "encircle", "overline", "o"]

/-- What a word that should be a color comes to. -/
inductive ColorReading where
  | color
  | nothing
  /-- A color of three parts, of which one has no number. -/
  | incomplete
  deriving DecidableEq, Repr

/-- The text between a function name with its opening parenthesis and a closing one at the end. -/
def argument? (function : String) (word : List Char) : Option (List Char) :=
  if function.toList.isPrefixOf word && word.getLast? == some ')' then some (word.drop function.length).dropLast
  else none

def isColorCode (code : List Char) : Bool :=
  code.length == 6 && code.all fun c => c.isDigit || ('a' ≤ c && c ≤ 'f')

def isPaletteIndex (index : List Char) : Bool := index.length ≤ 3 && isNumeral index && numeralValue index ≤ 255

/-- Three numbers with commas between them. -/
def readMixture (text : List Char) : ColorReading :=
  let parts := pieces ',' text
  if parts.length != 3 || text.any (fun c => c != ',' && (digitValue? c).isNone) then .nothing
  else if parts.any List.isEmpty then .incomplete
  else if parts.any fun part => 255 < ofDigits (part.filterMap digitValue?) then .nothing
  else .color

def readColor (word : List Char) : ColorReading :=
  let known := fun (valid : Bool) => if valid then .color else .nothing
  match word, argument? "color(" word, argument? "rgb(" word with
  | '#' :: code, _, _ => known (isColorCode code)
  | _, some index, _ => known (isPaletteIndex index)
  | _, _, some mixture => readMixture mixture
  | _, _, _ => known (isColorName (String.ofList word))

/-- Reading the words of a style comes to an incomplete color. -/
def isIncomplete : List String → Bool
  | [] => false
  | [word] => readColor (word.toList.map lowered) == .incomplete
  | word :: next :: rest =>
    let lower := word.toList.map lowered
    if lower == "link".toList then isIncomplete rest
    else if lower == "not".toList then styleAttributes.contains next && isIncomplete rest
    else if lower == "on".toList then
      match readColor (next.toList.map lowered) with
      | .incomplete => true
      | .nothing => false
      | .color => isIncomplete rest
    else if styleAttributes.contains (String.ofList lower) then isIncomplete (next :: rest)
    else
      match readColor lower with
      | .incomplete => true
      | .nothing => false
      | .color => isIncomplete (next :: rest)

/-- The words in front of the equals sign in the inside of a tag. -/
def nameWords (tag : List Char) : List String := (words (tag.takeWhile (· != '='))).map String.ofList

/-- The words of the style that the inside of a tag asks for. An equals sign divides them as a blank does; what is in
front of it is read in lower case. -/
def styleWords (tag : List Char) : List String :=
  nameWords (tag.map lowered) ++ (words ((tag.dropWhile (· != '=')).drop 1)).map String.ofList

end Deobfuscator.Text
