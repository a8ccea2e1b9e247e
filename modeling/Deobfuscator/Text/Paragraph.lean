import Deobfuscator.Text.Blank
import Deobfuscator.Text.Cluster
import Deobfuscator.Text.Pieces

/-!
Setting a text in lines of a width, measured in cells. Lines break between words, and inside a word that is wider than a
line. A text is first cut into stretches, one for each line, and each stretch is then fitted to the width.
-/

namespace Deobfuscator.Text

def tabSize : Nat := 8

/-- A piece of a line that a tab ends, with a blank for the tab and blanks up to the next tab stop. -/
def tabbed (piece : List Char) : List Char :=
  let spaced := piece ++ [' ']
  let beyond := cellWidth spaced % tabSize
  if beyond == 0 then spaced else spaced ++ List.replicate (tabSize - beyond) ' '

def withoutTabs (line : List Char) : List Char :=
  let parts := pieces '\t' line
  parts.dropLast.flatMap tabbed ++ parts.getLast?.getD []

/-- The words of a line, each with the blanks behind it, the first also with those in front of it. A line without words
counts as one. -/
def spacedWords (line : List Char) : List (List Char) :=
  if line.all isBlank then [line]
  else
    ((line.dropWhile isBlank).splitBy fun c next => !isBlank c || isBlank next).modifyHead
      (line.takeWhile isBlank ++ ·)

/-- A word cut into stretches between its clusters; `line` is the line in progress, which takes `cells`. -/
def chop (width : Nat) : List Char → Nat → List Cluster → List (List Char)
  | line, _, [] => [line]
  | line, cells, cluster :: rest =>
    if width < cells + cluster.cells then line :: chop width cluster.content cluster.cells rest
    else chop width (line ++ cluster.content) (cells + cluster.cells) rest

/-- The stretches of words; `line` is the line in progress, which takes `cells`. -/
def fill (width : Nat) : List Char → Nat → List (List Char) → List (List Char)
  | line, _, [] => [line]
  | line, cells, word :: rest =>
    let needed := cellWidth (trimEnd isBlank word)
    if cells + needed ≤ width then fill width (line ++ word) (cells + cellWidth word) rest
    else
      let before := if line.isEmpty then [] else [line]
      let parts := if width < needed then chop width [] 0 (clusters word) else [word]
      let last := parts.getLast?.getD []
      before ++ parts.dropLast ++ fill width last (cellWidth last) rest

/-- The stretches of a text. Together they are the text with blanks for its tabs and without its line breaks. -/
def stretches (width : Nat) (text : List Char) : List (List Char) :=
  (pieces '\n' text).flatMap fun line => fill width [] 0 (spacedWords (withoutTabs line))

/-- The clusters that a number of cells has room for. A cluster that fits in part leaves a blank. -/
def crop : Nat → List Cluster → List Char
  | _, [] => []
  | room, cluster :: rest =>
    if room == 0 then []
    else if room < cluster.cells then [' ']
    else cluster.content ++ crop (room - cluster.cells) rest

/-- A stretch as a line of a width, without blanks at its end. -/
def fitted (width : Nat) (stretch : List Char) : List Char :=
  let line := trimEnd isBlank stretch
  if cellWidth line ≤ width then line else crop width (clusters line)

def paragraph (width : Nat) (text : List Char) : List (List Char) := (stretches width text).map (fitted width)

/-- A line shows something behind a position in the stretches. -/
def showsBehind (width : Nat) : Nat → List (List Char) → Bool
  | _, [] => false
  | position, stretch :: rest =>
    position < (fitted width stretch).length || showsBehind width (position - stretch.length) rest

/-- Lines show something of a text behind its first part. The end of a text counts as shown if the text is one line as
it stands. -/
def isShownAfter (width : Nat) (before after : List Char) : Bool :=
  let stretches := stretches width (before ++ after)
  showsBehind width ((pieces '\n' before).flatMap withoutTabs).length stretches ||
    (after.isEmpty && stretches.map (fitted width) == [before])

end Deobfuscator.Text
