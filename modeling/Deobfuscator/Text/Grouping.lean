/-!
Digits in groups: a separator stands in front of every full group but the first, counted from the last digit.
-/

namespace Deobfuscator.Text

/-- Puts a separator after every full group, where `room` is what is left of the group that is open. -/
def separated (separator : Char) (size : Nat) : Nat → List Char → List Char
  | _, [] => []
  | 0, c :: rest => separator :: c :: separated separator size (size - 1) rest
  | room + 1, c :: rest => c :: separated separator size room rest

/-- Digits in groups of `size`. -/
def grouped (separator : Char) (size : Nat) (digits : List Char) : List Char :=
  (separated separator size size digits.reverse).reverse

/-- How many digits in groups of `size` take up a width. A separator is never the first character, so that the width
may be exceeded by one. -/
def digitsOfWidth (size width : Nat) : Nat :=
  width - width / (size + 1) + (if width % (size + 1) == 0 then 1 else 0)

/-- Zeros in front of digits, up to a count. -/
def zeroFilled (count : Nat) (digits : List Char) : List Char :=
  List.replicate (count - digits.length) '0' ++ digits

end Deobfuscator.Text
