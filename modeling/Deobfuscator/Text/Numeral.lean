/-!
Decimal numerals of ASCII digits and the numbers that they write. A numeral of more than `digitLimit` digits has a
value, but reading it is refused.
-/

namespace Deobfuscator.Text

/-- The longest numeral that is read, in digits; leading zeros count, a sign does not. -/
def digitLimit : Nat := 4300

/-- The number that a list of digit values writes, the most significant first. -/
def ofDigits (digits : List Nat) : Nat := digits.foldl (fun value digit => 10 * value + digit) 0

/-- A numeral is a non-empty run of ASCII digits. -/
def isNumeral (text : List Char) : Bool := !text.isEmpty && text.all Char.isDigit

def numeralValue (text : List Char) : Nat := ofDigits (text.map fun digit => digit.toNat - '0'.toNat)

inductive NumeralFault where
  | malformed
  /-- The text is a numeral of this many digits, more than `digitLimit`. -/
  | tooLong (digits : Nat)
  deriving DecidableEq, Repr

def readNatural (text : List Char) : Except NumeralFault Nat :=
  if !isNumeral text then .error .malformed
  else if digitLimit < text.length then .error (.tooLong text.length)
  else .ok (numeralValue text)

/-- The number of a numeral with at most one sign in front. -/
def readInteger : List Char → Except NumeralFault Int
  | '-' :: numeral => (readNatural numeral).map fun n => -(n : Int)
  | '+' :: numeral => (readNatural numeral).map fun n => (n : Int)
  | numeral => (readNatural numeral).map fun n => (n : Int)

def tooLongMessage (digits : Nat) : String :=
  "Exceeds the limit (" ++ toString digitLimit ++ " digits) for integer string conversion: value has " ++
    toString digits ++ " digits; use sys.set_int_max_str_digits() to increase the limit"

end Deobfuscator.Text
