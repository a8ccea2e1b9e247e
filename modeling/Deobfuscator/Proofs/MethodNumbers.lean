import Deobfuscator.Proofs.FirstBadLine

/-! Which numbers of a method are looked at: those of the range that counts. If they
are not numerals the reading of the table ends with the method, at the latest. What
stands in a range after the arguments does not matter behind one in front. -/

namespace Deobfuscator.Proofs.MethodNumbers
open Text Mapping Numerals MethodGrammar TableReading TableSegments FirstBadLine

/-- A line that is written as a method. -/
structure IsMethod (raw : List Char) (form : Form) : Prop where
  shown : isSilent raw = false
  indented : isIndented raw = true
  valid : form.WellFormed
  written : form.text = strip raw

def HasNumerals (form : Form) : Prop := ∀ numbers ∈ form.numbers, IsNumeral numbers.1 ∧ IsNumeral numbers.2

variable {before lines : List (List Char)} {raw : List Char} {form : Form} {fault : Fault}

/-- A method in a class is an entry or a fault, by the numbers of its range. -/
theorem IsMethod.effect (method : IsMethod raw form) (owner : String) (line : Nat) :
    (HasNumerals form ∧ lineEffect (some owner) line raw = .event (.entry (.method (form.entry owner line)))) ∨
      (¬ HasNumerals form ∧ ∃ fault, lineEffect (some owner) line raw = .fault fault) := by
  obtain ⟨shown, indented, valid, written⟩ := method
  rw [lineEffect_member shown indented, ← written]
  by_cases numerals : HasNumerals form
  · exact .inl ⟨numerals, (memberEffect_entry_iff valid).mpr ⟨numerals, rfl⟩⟩
  · refine .inr ⟨numerals, ?_⟩
    rw [memberEffect, methodLine?_text valid]
    cases read : form.parts.range line with
    | ok range => exact absurd (range_parts.mp read).1 numerals
    | error fault =>
      dsimp only
      rw [read]
      exact ⟨fault, rfl⟩

/-- Lines and a method after them are read if the lines are, and if the numbers of
its range are numerals. -/
theorem read_method_iff (header : ∃ raw ∈ before, IsHeader raw) (method : IsMethod raw form) :
    (read (before ++ [raw])).fault = none ↔ (read before).fault = none ∧ HasNumerals form := by
  cases found : (read before).fault with
  -- The method is not reached then, whatever its numbers are.
  | some fault =>
    have stopped : read (before ++ [raw]) = read before := readFrom_append_stopped found
    simp [stopped, found]
  | none =>
    have inside : ownerAfter none 1 before ≠ none := ownerAfter_some_iff.mpr (.inr header)
    obtain ⟨owner, inside⟩ := Option.ne_none_iff_exists'.mp inside
    have whole : (read (before ++ [raw])).fault = (readFrom (some owner) (1 + before.length) [raw]).fault := by
      rw [Mapping.read, readFrom_append found, inside]
      rfl
    rw [whole]
    rcases method.effect owner (1 + before.length) with ⟨numerals, effect⟩ | ⟨wrong, fault, effect⟩
    · rw [fault_of_readable (by simp [effect])]
      exact iff_of_true rfl ⟨rfl, numerals⟩
    · rw [readFrom_stopped effect]
      exact iff_of_false (Option.some_ne_none fault) fun valid => wrong valid.2

/-- A fault names a line, if no number that counts is too long to be read. -/
theorem read_fault_message (short : ∀ raw ∈ lines, HasShortNumbers raw) (stopped : (read lines).fault = some fault) :
    fault.kind = .mappingCorrupt ∧
      ∃ place < lines.length, ∃ reason, fault.message = "line " ++ toString (place + 1) ++ ": " ++ reason := by
  obtain ⟨front, raw, back, rfl, _, effect⟩ := readFrom_fault_iff.mp stopped
  obtain ⟨kind, reason, message⟩ := lineEffect_fault_message (short raw (by simp)) effect
  rw [Nat.add_comm] at message
  exact ⟨kind, front.length, by simp, reason, message⟩

/-- Behind a header, a method is read if and only if the lines before it are and the
numbers of its range are numerals; a range in front of the type leaves that after the
arguments unread. If a number of the range holds anything but digits, the reading ends
with the method, at the latest, by the fault of a corrupt table that names the line,
unless a number is too long to be read. -/
theorem method_numbers_checked (before after : List (List Char)) (raw : List Char) (form : Form)
    (header : ∃ raw ∈ before, IsHeader raw) (method : IsMethod raw form) :
    ((read (before ++ [raw])).fault = none ↔ (read before).fault = none ∧
      ∀ numbers ∈ form.numbers, IsNumeral numbers.1 ∧ IsNumeral numbers.2) ∧
    ∀ first last, form.numbers = some (first, last) → ¬ IsDigits first ∨ ¬ IsDigits last →
      ∃ fault, (read (before ++ [raw])).fault = some fault ∧ read (before ++ raw :: after) = read (before ++ [raw]) ∧
        ((∀ line ∈ before ++ [raw], HasShortNumbers line) → fault.kind = .mappingCorrupt ∧
          ∃ place ≤ before.length, ∃ reason, fault.message = "line " ++ toString (place + 1) ++ ": " ++ reason) := by
  refine ⟨read_method_iff header method, ?_⟩
  intro first last numbers wrong
  have refused : (read (before ++ [raw])).fault ≠ none := by
    intro readable
    obtain ⟨first_numeral, last_numeral⟩ := ((read_method_iff header method).mp readable).2 _ numbers
    rcases wrong with wrong | wrong
    · exact wrong first_numeral.toIsDigits
    · exact wrong last_numeral.toIsDigits
  obtain ⟨fault, stopped⟩ := Option.ne_none_iff_exists'.mp refused
  have unread : read (before ++ [raw] ++ after) = read (before ++ [raw]) := readFrom_append_stopped stopped
  rw [List.append_assoc, List.singleton_append] at unread
  refine ⟨fault, stopped, unread, ?_⟩
  intro short
  obtain ⟨kind, place, inside, message⟩ := read_fault_message short stopped
  rw [List.length_append, List.length_singleton] at inside
  exact ⟨kind, place, Nat.le_of_lt_succ inside, message⟩

private def firstHeader : List Char := "a.B -> c:".toList

private theorem firstHeader_isHeader : IsHeader firstHeader :=
  ⟨"a.B".toList, ['c'], ⟨by decide, by decide, by decide⟩, by decide, by decide⟩

/-- A range in front of the type whose last number is a letter, and a range of digits
after the arguments. -/
theorem method_numbers_checked_leading :
    let raw := "  1:x:void m():3:4 -> d".toList
    let form : Form :=
      ⟨some (['1'], ['x']), "void".toList, [' '], ['m'], [], some (['3'], some ['4']), [' '], [' '], ['d']⟩
    (∃ raw ∈ [firstHeader], IsHeader raw) ∧ IsMethod raw form ∧ form.numbers = some (['1'], ['x']) ∧ ¬ IsDigits ['x'] ∧
      (∀ line ∈ [firstHeader] ++ [raw], HasShortNumbers line) ∧
      ∃ fault, (read [firstHeader, raw]).fault = some fault ∧ fault.kind = .mappingCorrupt ∧
        read [firstHeader, raw, "oops".toList] = read [firstHeader, raw] := by
  intro raw form
  have headed : ∃ raw ∈ [firstHeader], IsHeader raw := ⟨firstHeader, List.mem_cons_self, firstHeader_isHeader⟩
  have method : IsMethod raw form := ⟨by decide, by decide, by constructor <;> decide, by decide⟩
  have wrong : ¬ IsDigits ['x'] := by decide
  have short : ∀ line ∈ [firstHeader] ++ [raw], HasShortNumbers line := by
    have lengths : ∀ line ∈ [firstHeader] ++ [raw], line.length ≤ 4300 := by decide
    exact fun line member => .of_length (lengths line member)
  obtain ⟨_, stops⟩ := method_numbers_checked [firstHeader] ["oops".toList] raw form headed method
  obtain ⟨fault, stopped, unread, corrupt⟩ := stops ['1'] ['x'] rfl (.inr wrong)
  exact ⟨headed, method, rfl, wrong, short, fault, stopped, (corrupt short).1, unread⟩

/-- A range of letters after the arguments is accepted behind one in front of the type. -/
theorem method_numbers_unread :
    let raw := "  1:2:void m():x:y -> d".toList
    (∃ form, IsMethod raw form ∧ form.trailing = some (['x'], some ['y'])) ∧ ¬ IsDigits ['x'] ∧ ¬ IsDigits ['y'] ∧
      IsHeader firstHeader ∧ (read [firstHeader, raw]).fault = none := by
  intro raw
  let form : Form :=
    ⟨some (['1'], ['2']), "void".toList, [' '], ['m'], [], some (['x'], some ['y']), [' '], [' '], ['d']⟩
  have method : IsMethod raw form := ⟨by decide, by decide, by constructor <;> decide, by decide⟩
  exact ⟨⟨form, method, rfl⟩, by decide, by decide, firstHeader_isHeader, by decide⟩

end Deobfuscator.Proofs.MethodNumbers
