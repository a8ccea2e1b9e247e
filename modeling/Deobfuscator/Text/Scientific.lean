/-!
Whole numbers in floating form. A number is first rounded to 53 binary digits, and then to the decimal digits that are
asked for; both times a half goes to the even neighbour.
-/

namespace Deobfuscator.Text

/-- A quotient, rounded to the nearest whole number. -/
def roundedQuotient (dividend divisor : Nat) : Nat :=
  let quotient := dividend / divisor
  let twice := 2 * (dividend % divisor)
  if twice < divisor || (twice == divisor && quotient % 2 == 0) then quotient else quotient + 1

/-- A number, rounded to 53 binary digits. -/
def doubleOf (value : Nat) : Nat :=
  let unit := Nat.pow 2 (value.log2 + 1 - 53)
  roundedQuotient value unit * unit

/-- Significant digits; the point stands after the first of them, and the exponent says by how much it is off. -/
structure Scientific where
  digits : List Char
  exponent : Nat
  deriving DecidableEq, Repr

namespace Scientific

/-- A number, rounded to `count` significant digits. -/
def ofNat (count value : Nat) : Scientific :=
  let exact := Nat.toDigits 10 value
  if exact.length ≤ count then ⟨exact ++ List.replicate (count - exact.length) '0', exact.length - 1⟩
  else
    let rounded := Nat.toDigits 10 (roundedQuotient value (Nat.pow 10 (exact.length - count)))
    ⟨rounded.take count, exact.length - 1 + (rounded.length - count)⟩

/-- The exponent as text, of two digits or more. -/
def exponentText (number : Scientific) : List Char :=
  let digits := Nat.toDigits 10 number.exponent
  'e' :: '+' :: (List.replicate (2 - digits.length) '0' ++ digits)

end Scientific

/-- Digits after the point. Without any, the point is written only if it is `wanted`. -/
def fraction (wanted : Bool) (digits : List Char) : List Char :=
  if digits.isEmpty && !wanted then [] else '.' :: digits

/-- Digits without the zeros at their end. -/
def withoutZeros (digits : List Char) : List Char := (digits.reverse.dropWhile (· == '0')).reverse

end Deobfuscator.Text
