import Deobfuscator.CommandLine.Console
import Deobfuscator.Text.ControlSequence
import Deobfuscator.Text.Markup
import Deobfuscator.Text.Paragraph

/-!
The console of a program whose output is no terminal. Control sequences are dropped, and a table is drawn with lines.
-/

namespace Deobfuscator.CommandLine

open Text

def alignRight (width : Nat) (text : String) : String := "".pushn ' ' (width - text.length) ++ text

def alignLeft (width : Nat) (text : String) : String := text.pushn ' ' (width - text.length)

/-- A text in the middle of a width of cells; the larger part of an odd number of blanks is behind it. -/
def centre (width : Nat) (text : List Char) : String :=
  let missing := width - cellWidth text
  (("".pushn ' ' (missing / 2)) ++ String.ofList text).pushn ' ' (missing - missing / 2)

namespace Table

def left (table : Table) : Nat := ((table.head :: table.rows).map (·.1.length)).foldl max 0

def right (table : Table) : Nat := ((table.head :: table.rows).map (·.2.length)).foldl max 0

/-- The width of the table, which has no outer edge: each column has a blank on both sides, and a bar between them. -/
def width (table : Table) : Nat := table.left + table.right + 5

/-- A row; `bar` stands between the columns. -/
def row (table : Table) (bar label value : String) : String :=
  " " ++ alignLeft table.left label ++ " " ++ bar ++ " " ++ alignRight table.right value ++ " "

/-- The lines of a table under a title that is read already. -/
def linesUnder (table : Table) (title : List Char) : List String :=
  (paragraph table.width title).map (centre table.width) ++ table.row "┃" table.head.1 table.head.2 ::
    ("".pushn '━' (table.left + 2) ++ "╇" ++ "".pushn '━' (table.right + 2)) ::
    table.rows.map fun (label, value) => table.row "│" label value

/-- The lines of a table. The title may have tags and emoji codes. The name of a tag is always read, its style only if
the title shows something in this style. -/
def lines (table : Table) : Except Fault (List String) :=
  let title := partsOf table.title.toList
  if title.any Part.hasIncompleteName ||
      (aroundIncomplete? title).any (fun (before, after) => isShownAfter table.width before after) then
    .error .missingNumeral
  else .ok (table.linesUnder (title.flatMap Part.printed))

end Table

namespace Console

def plain : Console where
  line text := printed (text ++ "\n")
  error message := printed ("Error: " ++ message ++ "\n")
  table table := table.lines.map fun lines => String.join (lines.map (· ++ "\n"))

end Console

end Deobfuscator.CommandLine
