import Deobfuscator.Template.Kind
import Deobfuscator.Text.Hexadecimal
import Deobfuscator.Text.Quoted

/-!
What can be wrong with a file name template, found on expanding it.
-/

namespace Deobfuscator.Template

open Text

inductive Fault where
  /-- An opening brace is the last character. -/
  | loneOpen
  /-- A closing brace stands alone. -/
  | loneClose
  | openInName
  | unclosedField
  | missingConversion
  | junkAfterConversion
  | unclosedSpec
  /-- A placeholder inside the spec of a placeholder has one inside its own. -/
  | nestedTooDeep
  | tooManyDigits
  /-- A placeholder asks for a value by position. -/
  | noPosition (index : Nat)
  | unknownName (name : String)
  | emptyAccess
  | unclosedItem
  | junkAfterItem
  | noAttribute (kind : Kind) (name : String)
  | noAttributeOfKind (kind : Kind) (name : String)
  /-- An attribute of a kind that is set for no kind. -/
  | unsetAttribute (name : String)
  | noItems (kind : Kind)
  | noItemsOfKind (kind : Kind)
  /-- A kind with an argument takes no other. -/
  | notGeneric (kind : String)
  /-- Nothing is held under a key, which is given in quoted form. -/
  | missingItem (key : String)
  | indexOutOfRange (kind : Kind)
  | indexNotNumber (kind : Kind)
  | unknownConversion (conversion : Char)
  /-- A spec for a value that is neither a text nor a number. -/
  | specRefused (kind : Kind)
  | twoSeparators
  | missingPrecision
  | invalidSpec (spec : String) (kind : Kind)
  | separatorRefused (separator code : Char)
  | unknownCode (code : Char) (kind : Kind)
  | spaceRefused
  | signRefused
  | negativeZeroRefused
  | alternateRefused
  | innerAlignmentRefused
  /-- A whole number is written with all its digits. -/
  | precisionRefused
  | negativeZeroRefusedForNumber
  | signRefusedForCharacter
  | alternateRefusedForCharacter
  /-- A number is not the code of a character. -/
  | notACharacter
  | precisionTooBig
  | outOfMemory
  deriving DecidableEq, Repr

/-- A character in a message: itself if it is visible ASCII, at most `last`, else its code point. -/
def shownChar (last : Nat) (c : Char) : String :=
  if 0x20 < c.toNat && c.toNat ≤ last then String.singleton c else "\\x" ++ String.ofList (hexNumeral c.toNat)

def Fault.message : Fault → String
  | .loneOpen => "Single '\x7b' encountered in format string"
  | .loneClose => "Single '\x7d' encountered in format string"
  | .openInName => "unexpected '\x7b' in field name"
  | .unclosedField => "expected '\x7d' before end of string"
  | .missingConversion => "end of string while looking for conversion specifier"
  | .junkAfterConversion => "expected ':' after conversion specifier"
  | .unclosedSpec => "unmatched '\x7b' in format spec"
  | .nestedTooDeep => "Max string recursion exceeded"
  | .tooManyDigits => "Too many decimal digits in format string"
  | .noPosition index => "Replacement index " ++ toString index ++ " out of range for positional args tuple"
  | .unknownName name => quoted name
  | .emptyAccess => "Empty attribute in format string"
  | .unclosedItem => "Missing ']' in format string"
  | .junkAfterItem => "Only '.' or '[' may follow ']' in format field specifier"
  | .noAttribute kind name => "'" ++ kind.fullName ++ "' object has no attribute '" ++ name ++ "'"
  | .noAttributeOfKind kind name => "type object '" ++ kind.fullName ++ "' has no attribute '" ++ name ++ "'"
  | .unsetAttribute name => name
  | .noItems kind => "'" ++ kind.fullName ++ "' object is not subscriptable"
  | .noItemsOfKind kind => "type '" ++ kind.fullName ++ "' is not subscriptable"
  | .notGeneric kind => kind ++ " is not a generic class"
  | .missingItem key => key
  | .indexOutOfRange .texts => "string index out of range"
  | .indexOutOfRange kind => kind.fullName ++ " index out of range"
  | .indexNotNumber .texts => "string indices must be integers, not 'str'"
  | .indexNotNumber kind => kind.fullName ++ " indices must be integers or slices, not str"
  | .unknownConversion conversion => "Unknown conversion specifier " ++ shownChar 0x7E conversion
  | .specRefused kind => "unsupported format string passed to " ++ kind.fullName ++ ".__format__"
  | .twoSeparators => "Cannot specify both ',' and '_'."
  | .missingPrecision => "Format specifier missing precision"
  | .invalidSpec spec kind => "Invalid format specifier '" ++ spec ++ "' for object of type '" ++ kind.fullName ++ "'"
  | .separatorRefused separator code =>
    "Cannot specify '" ++ String.singleton separator ++ "' with '" ++ shownChar 0x7F code ++ "'."
  | .unknownCode code kind =>
    "Unknown format code '" ++ shownChar 0x7F code ++ "' for object of type '" ++ kind.fullName ++ "'"
  | .spaceRefused => "Space not allowed in string format specifier"
  | .signRefused => "Sign not allowed in string format specifier"
  | .negativeZeroRefused => "Negative zero coercion (z) not allowed in string format specifier"
  | .alternateRefused => "Alternate form (#) not allowed in string format specifier"
  | .innerAlignmentRefused => "'=' alignment not allowed in string format specifier"
  | .precisionRefused => "Precision not allowed in integer format specifier"
  | .negativeZeroRefusedForNumber => "Negative zero coercion (z) not allowed in integer format specifier"
  | .signRefusedForCharacter => "Sign not allowed with integer format specifier 'c'"
  | .alternateRefusedForCharacter => "Alternate form (#) not allowed with integer format specifier 'c'"
  | .notACharacter => "%c arg not in range(0x110000)"
  | .precisionTooBig => "precision too big"
  | .outOfMemory => ""

end Deobfuscator.Template
