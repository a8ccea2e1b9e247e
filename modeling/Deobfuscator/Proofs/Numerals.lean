import Deobfuscator.Text.Numeral
import Mathlib.Data.Nat.Digits.Defs

/-! Which texts are read as numbers, and as which. -/

namespace Deobfuscator.Proofs.Numerals
open Text

/-- ASCII digits alone, and at least one. -/
structure IsDigits (text : List Char) : Prop where
  some : text ≠ []
  digits : ∀ c ∈ text, '0' ≤ c ∧ c ≤ '9'

/-- A numeral that is short enough to be read. -/
structure IsNumeral (text : List Char) : Prop extends IsDigits text where
  short : text.length ≤ 4300

/-- A numeral with more digits than are read. -/
structure IsOverlong (text : List Char) (count : Nat) : Prop extends IsDigits text where
  long : 4300 < text.length
  counted : text.length = count

def decimalValue (text : List Char) : Nat :=
  Nat.ofDigits 10 (text.reverse.map fun c => c.toNat - '0'.toNat)

theorem isNumeral_iff {text : List Char} : isNumeral text = true ↔ IsDigits text := by
  have digit (c : Char) : c.isDigit = true ↔ '0' ≤ c ∧ c ≤ '9' := by
    simp only [Char.isDigit, Bool.and_eq_true, decide_eq_true_eq]
    exact Iff.rfl
  simp only [isNumeral, Bool.and_eq_true, Bool.not_eq_true', List.isEmpty_eq_false_iff, List.all_eq_true, digit]
  exact ⟨fun valid => ⟨valid.1, valid.2⟩, fun valid => ⟨valid.some, valid.digits⟩⟩

instance (text : List Char) : Decidable (IsDigits text) := decidable_of_iff _ isNumeral_iff

instance (text : List Char) : Decidable (IsNumeral text) :=
  decidable_of_iff (IsDigits text ∧ text.length ≤ 4300)
    ⟨fun valid => ⟨valid.1, valid.2⟩, fun valid => ⟨valid.toIsDigits, valid.short⟩⟩

/-- Reading from the left gives the value that the places from the right have. -/
theorem numeralValue_eq (text : List Char) : numeralValue text = decimalValue text := by
  rw [numeralValue, ofDigits, decimalValue, Nat.ofDigits_eq_foldr, List.map_reverse, List.foldr_reverse]
  congr 1
  funext value digit
  exact Nat.add_comm _ _

theorem readNatural_ok_iff {text : List Char} {n : Nat} :
    readNatural text = .ok n ↔ IsNumeral text ∧ decimalValue text = n := by
  rw [readNatural]
  by_cases digits : isNumeral text = true
  · have valid := isNumeral_iff.mp digits
    by_cases long : digitLimit < text.length
    · have refused : ¬ IsNumeral text := fun numeral => absurd numeral.short (Nat.not_le.mpr long)
      simp [digits, long, refused]
    · have numeral : IsNumeral text := ⟨valid, Nat.not_lt.mp long⟩
      simp [digits, long, numeral, numeralValue_eq]
  · have refused : ¬ IsNumeral text := fun numeral => digits (isNumeral_iff.mpr numeral.toIsDigits)
    simp [digits, refused]

theorem readNatural_malformed_iff {text : List Char} : readNatural text = .error .malformed ↔ ¬ IsDigits text := by
  rw [readNatural, ← isNumeral_iff]
  by_cases valid : isNumeral text = true
  · by_cases long : digitLimit < text.length <;> simp [valid, long]
  · simp [valid]

theorem readNatural_tooLong_iff {text : List Char} {count : Nat} :
    readNatural text = .error (.tooLong count) ↔ IsOverlong text count := by
  have unfolded : IsOverlong text count ↔ IsDigits text ∧ 4300 < text.length ∧ text.length = count :=
    ⟨fun valid => ⟨valid.toIsDigits, valid.long, valid.counted⟩, fun valid => ⟨valid.1, valid.2.1, valid.2.2⟩⟩
  rw [unfolded, readNatural, ← isNumeral_iff]
  by_cases valid : isNumeral text = true
  · by_cases long : digitLimit < text.length
    · have beyond : 4300 < text.length := long
      simp [valid, long, beyond]
    · have within : ¬ 4300 < text.length := long
      simp [valid, long, within]
  · simp [valid]

/-- A text without the sign in front of it. -/
def unsigned : List Char → List Char
  | '-' :: numeral => numeral
  | '+' :: numeral => numeral
  | numeral => numeral

/-- The integer that a number comes to behind the sign of a text. -/
def signed : List Char → Nat → Int
  | '-' :: _, n => -(n : Int)
  | _, n => n

theorem readInteger_eq (text : List Char) : readInteger text = (readNatural (unsigned text)).map (signed text) := by
  fun_cases unsigned text with
  | case1 numeral =>
    rw [readInteger]
    cases readNatural numeral <;> rfl
  | case2 numeral =>
    rw [readInteger]
    cases readNatural numeral <;> rfl
  | case3 _ minus plus =>
    have plain (n : Nat) : signed text n = n := by
      rw [signed]
      exact minus
    rw [readInteger]
    · cases readNatural text <;> simp [Except.map, bind, Except.bind, pure, Except.pure, plain]
    · exact minus
    · exact plus

theorem readInteger_tooLong_iff {text : List Char} {count : Nat} :
    readInteger text = .error (.tooLong count) ↔ IsOverlong (unsigned text) count := by
  rw [readInteger_eq, ← readNatural_tooLong_iff]
  cases readNatural (unsigned text) <;> simp [Except.map]

end Deobfuscator.Proofs.Numerals
