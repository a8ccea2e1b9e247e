import Deobfuscator.Text.Emoji
import Deobfuscator.Text.Style

/-!
What is printed of a text with style tags where no styles are: the text between the tags, with pictographs for its emoji
codes. A tag stands in square brackets and starts with a small letter, `#` or `@`. Backslashes in front of a tag are
written twice; one more makes it ordinary text.
-/

namespace Deobfuscator.Text

def startsTag (c : Char) : Bool := ('a' ≤ c && c ≤ 'z') || c == '#' || c == '@'

/-- The inside of a tag, when the text after an opening bracket starts with one, and what follows the tag. -/
def splitTag? (text : List Char) : Option (List Char × List Char) :=
  if text.head?.any startsTag then
    match text.dropWhile (· != ']') with
    | [] => none
    | _ :: after => some (text.takeWhile (· != ']'), after)
  else none

inductive Part where
  | plain (text : List Char)
  | tag (inside : List Char)
  deriving DecidableEq, Repr

/-- The parts of a text that is cut at its opening brackets; `plain` is the ordinary text in progress. -/
def parts : List Char → List (List Char) → List Part
  | plain, [] => [.plain plain]
  | plain, piece :: rest =>
    match splitTag? piece with
    | none => parts (plain ++ '[' :: piece) rest
    | some (inside, after) =>
      let slashes := (plain.reverse.takeWhile (· == '\\')).length
      let tag := if slashes % 2 == 1 then .plain ('[' :: inside ++ [']']) else .tag inside
      .plain (plain.take (plain.length - slashes)) :: .plain (List.replicate (slashes / 2) '\\') :: tag ::
        parts after rest

def partsOf (text : List Char) : List Part :=
  match pieces '[' text with
  | [] => []
  | first :: rest => parts first rest

/-- A stretch of ordinary text without the backslashes in front of its brackets. -/
def unescaped : List Char → List Char
  | '\\' :: '[' :: rest => '[' :: unescaped rest
  | c :: rest => c :: unescaped rest
  | [] => []

/-- A control character that would move the cursor back or down, or ring. -/
def isMoving (c : Char) : Bool := ['\x07', '\x08', '\x0b', '\x0c', '\x0d'].contains c

def Part.printed : Part → List Char
  | .plain text => (withEmoji (unescaped text)).filter (!isMoving ·)
  | .tag _ => []

/-- The name of a tag comes to an incomplete color. -/
def Part.hasIncompleteName : Part → Bool
  | .plain _ => false
  | .tag inside => isIncomplete (nameWords inside)

/-- A tag asks for an incomplete color. -/
def Part.hasIncompleteStyle : Part → Bool
  | .plain _ => false
  | .tag inside => isIncomplete (styleWords inside)

/-- What is printed before and after the first tag that asks for an incomplete color, if there is one. -/
def aroundIncomplete? (parts : List Part) : Option (List Char × List Char) :=
  match parts.span fun part => !part.hasIncompleteStyle with
  | (_, []) => none
  | (before, after) => some (before.flatMap Part.printed, after.flatMap Part.printed)

end Deobfuscator.Text
