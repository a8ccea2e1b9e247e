/-!
Cutting a text into lines. Terminators are dropped, a carriage return followed by a line feed ends one line, and a text
that ends with a terminator has no empty line after it.
-/

namespace Deobfuscator.Text

/-- The terminators of a line in a file. -/
def isFileBreak (c : Char) : Bool := c == '\n' || c == '\r'

/-- The line boundaries of a text in memory: those of a file, the vertical tab, the form feed, the file, group and
record separators, the next-line character and the line and paragraph separators. -/
def isTextBreak (c : Char) : Bool :=
  isFileBreak c || c == '\x0b' || c == '\x0c' || c == '\x1c' || c == '\x1d' || c == '\x1e' || c == '\u0085' ||
    c == '\u2028' || c == '\u2029'

/-- Puts a character in front of the first line; a lone character is a line of its own. -/
def consLine (c : Char) : List (List Char) → List (List Char)
  | [] => [[c]]
  | line :: rest => (c :: line) :: rest

/-- The lines of a text under a choice of terminators. A line feed right after a carriage return belongs to the same
terminator, so a line is not ended by it again. -/
def linesAfter (isBreak : Char → Bool) : Bool → List Char → List (List Char)
  | _, [] => []
  | afterReturn, c :: rest =>
    if afterReturn && c == '\n' then linesAfter isBreak false rest
    else if isBreak c then [] :: linesAfter isBreak (c == '\r') rest
    else consLine c (linesAfter isBreak false rest)

def linesBy (isBreak : Char → Bool) (text : List Char) : List (List Char) := linesAfter isBreak false text

/-- The lines of a text as a file holds them. -/
def fileLines (text : List Char) : List (List Char) := linesBy isFileBreak text

/-- The lines of a text in memory. -/
def textLines (text : List Char) : List (List Char) := linesBy isTextBreak text

end Deobfuscator.Text
