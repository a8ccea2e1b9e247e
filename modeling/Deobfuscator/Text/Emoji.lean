import Deobfuscator.Text.Blank
import Deobfuscator.Text.EmojiNames
import Deobfuscator.Text.LowerCase
import Deobfuscator.Text.Pieces

/-!
Emoji codes: the name of a pictograph between colons stands for the pictograph. At its end the name may ask for the form
of a text or of a picture.
-/

namespace Deobfuscator.Text

/-- The pictograph of a name in words that are names and pictographs in turn. -/
def pictographIn (name : List Char) : List (List Char) → Option (List Char)
  | other :: pictograph :: rest => if other == name then some pictograph else pictographIn name rest
  | _ => none

/-- The pictograph of a name in any case. -/
def pictograph? (name : List Char) : Option (List Char) :=
  let name := name.map lowered
  emojiNames.findSome? fun line => pictographIn name (words line.toList)

/-- A name without the form that it asks for, and the variation selector of this form. -/
def splitForm (name : List Char) : List Char × List Char :=
  if "-text".toList.isSuffixOf name then (name.take (name.length - 5), ['\ufe0e'])
  else if "-emoji".toList.isSuffixOf name then (name.take (name.length - 6), ['\ufe0f'])
  else (name, [])

/-- What stands for the text between two colons: a pictograph, or the text itself with its colons. -/
def ofCode (name : List Char) : List Char :=
  let (base, form) := splitForm name
  match pictograph? base with
  | some pictograph => pictograph ++ form
  | none => ':' :: name ++ [':']

/-- A text, cut at its colons, with its codes read from left to right. A code holds no blanks, and a colon that ends a
code starts no other. -/
def readCodes : List (List Char) → List Char
  | [] => []
  | [text] => text
  | [text, last] => text ++ ':' :: last
  | text :: name :: after :: rest =>
    if name.any isBlank then text ++ ':' :: readCodes (name :: after :: rest)
    else text ++ ofCode name ++ readCodes (after :: rest)

/-- A text with pictographs for its emoji codes. -/
def withEmoji (text : List Char) : List Char := readCodes (pieces ':' text)

end Deobfuscator.Text
