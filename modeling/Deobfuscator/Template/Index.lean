import Deobfuscator.Template.Fault
import Deobfuscator.Text.Digit
import Deobfuscator.Text.Numeral

/-!
Numbers inside placeholders: runs of decimal digits of any script, up to `indexLimit`.
-/

namespace Deobfuscator.Template

open Text

/-- The largest number that a placeholder may hold. -/
def indexLimit : Nat := 0x7FFFFFFFFFFFFFFF

/-- The number that the leading digits of a text write, if there are any, and the text after them. -/
def takeNumber (text : List Char) : Except Fault (Option Nat × List Char) :=
  let digits := text.takeWhile fun c => (digitValue? c).isSome
  let value := ofDigits (digits.filterMap digitValue?)
  if indexLimit < value then .error .tooManyDigits
  else .ok (if digits.isEmpty then none else some value, text.drop digits.length)

def number? (text : List Char) : Except Fault (Option Nat) :=
  (takeNumber text).map fun (value, rest) => if rest.isEmpty then value else none

end Deobfuscator.Template
