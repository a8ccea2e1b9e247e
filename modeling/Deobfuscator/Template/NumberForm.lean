import Deobfuscator.Template.Spec
import Deobfuscator.Text.Grouping
import Deobfuscator.Text.Scientific

/-!
Numbers as a spec writes them: whole, as a character, or in floating form. All numbers here are natural ones, so that
only a spec brings a sign.
-/

namespace Deobfuscator.Template

open Text

/-- A number in writing: what stands in front of its digits, the digits that are grouped, and what follows them. -/
structure Writing where
  lead : List Char
  digits : List Char
  tail : List Char
  deriving DecidableEq, Repr

/-- In upper case, as far as numbers need it. -/
def Writing.upper (writing : Writing) : Writing :=
  let raised := List.map Char.toUpper
  ⟨raised writing.lead, raised writing.digits, raised writing.tail⟩

namespace Spec

def base (spec : Spec) : Nat :=
  match spec.code with
  | 'b' => 2
  | 'o' => 8
  | 'x' | 'X' => 16
  | _ => 10

/-- What marks the base of a whole number, if the spec asks for it. -/
def baseMark (spec : Spec) : List Char :=
  if !spec.alternate then []
  else
    match spec.base with
    | 2 => ['0', 'b']
    | 8 => ['0', 'o']
    | 16 => ['0', 'x']
    | _ => []

/-- The character whose code a number is. -/
def character (spec : Spec) (value : Nat) : Except Fault Writing :=
  if spec.sign.isSome then .error .signRefusedForCharacter
  else if spec.alternate then .error .alternateRefusedForCharacter
  else if 0x10FFFF < value then .error .notACharacter
  else .ok ⟨[], [], [Char.ofNat value]⟩

def whole (spec : Spec) (value : Nat) : Except Fault Writing :=
  if spec.precision.isSome then .error .precisionRefused
  else if spec.negativeZero then .error .negativeZeroRefusedForNumber
  else if spec.code == 'c' then spec.character value
  else
    let writing : Writing := ⟨spec.baseMark, Nat.toDigits spec.base value, []⟩
    .ok (if spec.code == 'X' then writing.upper else writing)

/-- A number with a fixed count of places after the point. -/
def fixed (spec : Spec) (places value : Nat) : Writing :=
  ⟨[], Nat.toDigits 10 value, fraction spec.alternate (List.replicate places '0')⟩

/-- One digit before the point, `rest` after it, and the exponent. -/
def scientific (spec : Spec) (number : Scientific) (rest : List Char) : Writing :=
  ⟨[], number.digits.take 1, fraction spec.alternate rest ++ number.exponentText⟩

/-- So many significant digits, with an exponent only if the number has more of them. Zeros at the end are left out,
unless the spec asks for the alternate form. -/
def general (spec : Spec) (count value : Nat) : Writing :=
  let number := Scientific.ofNat count value
  let kept := fun digits => if spec.alternate then digits else withoutZeros digits
  if number.exponent < count then
    ⟨[], number.digits.take (number.exponent + 1),
      fraction spec.alternate (kept (number.digits.drop (number.exponent + 1)))⟩
  else spec.scientific number (kept (number.digits.drop 1))

/-- A number in floating form. A percentage is rounded again after it is multiplied. -/
def floating (spec : Spec) (value : Nat) : Writing :=
  let value := doubleOf value
  let precision := spec.precision.getD 6
  match spec.code with
  | 'e' | 'E' =>
    let number := Scientific.ofNat (precision + 1) value
    spec.scientific number (number.digits.drop 1)
  | 'g' | 'G' => spec.general (max precision 1) value
  | '%' =>
    let writing := spec.fixed precision (doubleOf (100 * value))
    { writing with tail := writing.tail ++ ['%'] }
  | _ => spec.fixed precision value

/-- How a spec writes a number, without sign, groups and padding. -/
def writing (spec : Spec) (kind : Kind) (value : Nat) : Except Fault Writing :=
  if ['b', 'c', 'd', 'o', 'x', 'X', 'n'].contains spec.code then spec.whole value
  else if ['e', 'E', 'f', 'F', 'g', 'G', '%'].contains spec.code then
    let precision := spec.precision.getD 6
    if 0x7FFFFFFF < precision then .error .precisionTooBig
    else if longestText < precision then .error .outOfMemory
    else
      let writing := spec.floating value
      .ok (if spec.code.isUpper then writing.upper else writing)
  else .error (.unknownCode spec.code kind)

/-- Digits in groups, if the spec asks for them: of three, or of four in bases other than ten. -/
def groups (spec : Spec) (count : Nat) (digits : List Char) : List Char :=
  if digits.isEmpty then []
  else
    match spec.separator with
    | none => zeroFilled count digits
    | some separator =>
      let size := if spec.base == 10 then 3 else 4
      grouped separator size (zeroFilled (digitsOfWidth size count) digits)

def signText (spec : Spec) : List Char := (spec.sign.filter (· != '-')).toList

/-- A number of some kind with all that a spec asks for. Zeros after the sign are digits, and grouped like them. -/
def writeNumber (spec : Spec) (kind : Kind) (value : Nat) : Except Fault (List Char) := do
  let writing ← spec.writing kind value
  let front := spec.signText ++ writing.lead
  let inner := if spec.fill == '0' && spec.align == '=' then spec.width - (front.length + writing.tail.length) else 0
  if longestText < spec.width then .error .outOfMemory
  else .ok (spec.pad front (spec.groups inner writing.digits ++ writing.tail))

end Spec

end Deobfuscator.Template
