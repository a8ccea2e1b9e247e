import Deobfuscator.Text.Hexadecimal
import Deobfuscator.Text.Printable

/-!
The quoted form of a text, as messages show it: printable characters stand for themselves, the backslash, the quote in
use and the common controls have a two-character escape, and every other character is written by its code point.
-/

namespace Deobfuscator.Text

/-- The shortest of the three code point escapes that holds the character. -/
def codePointEscape (c : Char) : List Char :=
  if c.toNat < 0x100 then '\\' :: 'x' :: hexDigits 2 c.toNat
  else if c.toNat < 0x10000 then '\\' :: 'u' :: hexDigits 4 c.toNat
  else '\\' :: 'U' :: hexDigits 8 c.toNat

def escapeChar (quote c : Char) : List Char :=
  if c == '\\' || c == quote then ['\\', c]
  else if c == '\t' then ['\\', 't']
  else if c == '\n' then ['\\', 'n']
  else if c == '\r' then ['\\', 'r']
  else if isPrintable c then [c]
  else codePointEscape c

/-- A text is quoted by apostrophes, unless it holds one and no quotation mark. -/
def quoteFor (text : List Char) : Char := if text.contains '\'' && !text.contains '"' then '"' else '\''

def quoteWith (quote : Char) (text : List Char) : List Char :=
  quote :: (text.flatMap (escapeChar quote) ++ [quote])

def quoted (text : String) : String := String.ofList (quoteWith (quoteFor text.toList) text.toList)

/-- A quoted form with every character beyond ASCII written by its code point. -/
def inAscii (form : List Char) : List Char := form.flatMap fun c => if c.toNat < 0x80 then [c] else codePointEscape c

end Deobfuscator.Text
