/-!
Hexadecimal digits of a number, in lower case.
-/

namespace Deobfuscator.Text

/-- The lower-case hexadecimal digit of a number below sixteen. -/
def hexDigit (n : Nat) : Char := Char.ofNat (if n < 10 then 0x30 + n else 0x57 + n)

/-- The last `width` hexadecimal digits of a number, the most significant first. -/
def hexDigits : Nat → Nat → List Char
  | 0, _ => []
  | width + 1, n => hexDigits width (n / 16) ++ [hexDigit (n % 16)]

/-- The hexadecimal digits of a number without leading zeros. -/
def hexNumeral (n : Nat) : List Char := Nat.toDigits 16 n

end Deobfuscator.Text
