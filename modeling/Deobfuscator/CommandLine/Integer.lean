import Deobfuscator.Text.Blank
import Deobfuscator.Text.Digit
import Deobfuscator.Text.Numeral
import Deobfuscator.Text.Pieces

/-!
Integers as a command line writes them, more freely than a request does: blanks around the number, a sign, single
underscores between digits, and decimal digits of any script.
-/

namespace Deobfuscator.CommandLine

open Text

/-- The blanks that may surround an integer: all but the information separators. -/
def isIntegerBlank (c : Char) : Bool := isBlank c && !(0x1C ≤ c.toNat && c.toNat ≤ 0x1F)

/-- The number that digits write, with at most one underscore between two of them. -/
def digits? (text : List Char) : Option Nat :=
  let groups := pieces '_' text
  let digits := groups.flatten
  let isNumber := groups.all (!·.isEmpty) && digits.all fun c => (digitValue? c).isSome
  if isNumber && digits.length ≤ digitLimit then some (ofDigits (digits.filterMap digitValue?)) else none

def integer? (word : String) : Option Int :=
  match trimEnd isIntegerBlank (word.toList.dropWhile isIntegerBlank) with
  | '-' :: digits => (digits? digits).map fun n => -(n : Int)
  | '+' :: digits => (digits? digits).map fun n => (n : Int)
  | digits => (digits? digits).map fun n => (n : Int)

end Deobfuscator.CommandLine
