import Deobfuscator.Proofs.TableSegments

/-! Where the reading of a table stops, and how far ahead it looks. It stops at the
first line that is bad by its own text and by the headers before it. Entries are
given as soon as their lines are read, so no later line can take them back. -/

namespace Deobfuscator.Proofs.FirstBadLine
open Text Mapping TextCuts Numerals MethodGrammar TableReading TableSegments

/-- Why the line after these cannot be read. -/
inductive IsBad (before : List (List Char)) (raw : List Char) : Prop where
  | stray (shown : isSilent raw = false) (outdented : isIndented raw = false)
      (other : ∀ plain obfuscated, ¬ IsHeaderText (strip raw) plain obfuscated)
  | number (shown : isSilent raw = false) (indented : isIndented raw = true)
      (inside : ∃ header ∈ before, IsHeader header) (form : Form) (valid : form.WellFormed)
      (written : form.text = strip raw) (first last : List Char) (governing : form.numbers = some (first, last))
      (wrong : ¬ IsDigits first ∨ ¬ IsDigits last)

/-- The line at a place in a table, counted from zero, is bad. -/
def BadAt (lines : List (List Char)) (place : Nat) : Prop :=
  ∃ raw, lines[place]? = some raw ∧ IsBad (lines.take place) raw

def IsShort (number : List Char) : Prop := IsDigits number → number.length ≤ 4300

/-- No line number that counts has more digits than are read. -/
def HasShortNumbers (raw : List Char) : Prop :=
  ∀ form : Form, form.WellFormed → form.text = strip raw →
    ∀ numbers ∈ form.numbers, IsShort numbers.1 ∧ IsShort numbers.2

variable {owner : Option String} {line : Nat} {raw : List Char} {lines before : List (List Char)} {fault : Fault}

theorem governing_iff {first last : List Char} :
    (∃ method, methodLine? (strip raw) = some method ∧ method.governing = some (first, last)) ↔
      ∃ form : Form, form.WellFormed ∧ form.text = strip raw ∧ form.numbers = some (first, last) := by
  constructor
  · rintro ⟨method, read, governing⟩
    obtain ⟨form, valid, written, rfl⟩ := form_of_methodLine? (strip_isStripped raw) read
    rw [governing_parts] at governing
    exact ⟨form, valid, written, governing⟩
  · rintro ⟨form, valid, written, governing⟩
    refine ⟨form.parts, ?_, ?_⟩
    · rw [← written]
      exact methodLine?_text valid
    · rw [governing_parts]
      exact governing

theorem isInfix_strip (text : List Char) : strip text <:+: text := by
  have front : text.dropWhile isBlank <:+ text := List.dropWhile_suffix isBlank
  have back : trimEnd isBlank (text.dropWhile isBlank) <+: text.dropWhile isBlank := by
    rw [trimEnd, ← List.reverse_suffix, List.reverse_reverse]
    exact List.dropWhile_suffix isBlank
  exact back.isInfix.trans front.isInfix

theorem isInfix_leadingText (form : Form) : leadingText form.leading <:+: form.text := by
  have head : leadingText form.leading <+: form.head := List.prefix_append _ _
  exact (head.trans (List.prefix_append _ _)).isInfix

theorem isInfix_trailingText (form : Form) : trailingText form.trailing <:+: form.text := by
  have rest : trailingText form.trailing <+: form.rest := List.prefix_append _ _
  have named : form.rest <:+ form.named :=
    (List.suffix_cons ')' form.rest).trans ((List.suffix_append form.arguments _).trans
      ((List.suffix_cons '(' _).trans (List.suffix_append form.name _)))
  have text : form.named <:+ form.text := (List.suffix_append form.beforeName _).trans (List.suffix_append form.head _)
  exact rest.isInfix.trans (named.trans text).isInfix

/-- The numbers that count stand in the line. -/
theorem isInfix_numbers {form : Form} {first last : List Char} (numbers : form.numbers = some (first, last)) :
    first <:+: form.text ∧ last <:+: form.text := by
  have leading := isInfix_leadingText form
  have trailing := isInfix_trailingText form
  rw [Form.numbers] at numbers
  split at numbers
  next range found =>
    cases numbers
    rw [found] at leading
    have first_inside : first <:+: leadingText (some (first, last)) := ⟨[], ':' :: last ++ [':'], by simp [leadingText]⟩
    have last_inside : last <:+: leadingText (some (first, last)) := ⟨first ++ [':'], [':'], by simp [leadingText]⟩
    exact ⟨first_inside.trans leading, last_inside.trans leading⟩
  next found =>
    cases numbers
    rw [found] at trailing
    have first_inside : first <:+: trailingText (some (first, some last)) :=
      ⟨[':'], ':' :: last, by simp [trailingText]⟩
    have last_inside : last <:+: trailingText (some (first, some last)) :=
      ⟨':' :: first ++ [':'], [], by simp [trailingText]⟩
    exact ⟨first_inside.trans trailing, last_inside.trans trailing⟩
  next found =>
    cases numbers
    rw [found] at trailing
    have inside : first <:+: trailingText (some (first, none)) := ⟨[':'], [], by simp [trailingText]⟩
    exact ⟨inside.trans trailing, inside.trans trailing⟩
  next => cases numbers

/-- A number is not too long if no run of characters in its line is a longer one. -/
theorem HasShortNumbers.of_runs (short : ∀ run, run <:+: raw → IsShort run) : HasShortNumbers raw := by
  rintro form _ written ⟨first, last⟩ numbers
  obtain ⟨first_inside, last_inside⟩ := isInfix_numbers numbers
  rw [written] at first_inside last_inside
  exact ⟨short first (first_inside.trans (isInfix_strip raw)), short last (last_inside.trans (isInfix_strip raw))⟩

/-- Only a long line has room for a number that is too long. -/
theorem HasShortNumbers.of_length (short : raw.length ≤ 4300) : HasShortNumbers raw :=
  .of_runs fun _ inside _ => inside.length_le.trans short

theorem IsShort.not_overlong {number : List Char} (short : IsShort number) (count : Nat) :
    ¬ IsOverlong number count := by
  intro overlong
  have bound := short overlong.toIsDigits
  have long := overlong.long
  omega

theorem IsShort.error_iff {number : List Char} (short : IsShort number) (line : Nat) :
    readLineNumber line number = .error fault ↔
      ¬ IsDigits number ∧ fault = .badLineNumber line (String.ofList number) := by
  rw [readLineNumber_error_iff]
  constructor
  · rintro (wrong | ⟨count, overlong, _⟩)
    · exact wrong
    · exact absurd overlong (short.not_overlong count)
  · exact .inl

/-- Two short numbers are refused for the first of them that is no numeral. -/
theorem range_error_of_short {method : MethodLine} {first last : List Char}
    (governing : method.governing = some (first, last)) (short : IsShort first) (short' : IsShort last) :
    (∃ fault, method.range line = .error fault) ↔ ¬ IsDigits first ∨ ¬ IsDigits last := by
  constructor
  · rintro ⟨fault, refused⟩
    obtain ⟨first', last', governing', refused⟩ := range_error_iff.mp refused
    cases governing.symm.trans governing'
    rcases refused with refused | ⟨_, refused⟩
    · exact .inl ((short.error_iff line).mp refused).1
    · exact .inr ((short'.error_iff line).mp refused).1
  · intro wrong
    by_cases digits : IsDigits first
    · have last_wrong := wrong.resolve_left (not_not_intro digits)
      have refused := (short'.error_iff line).mpr ⟨last_wrong, rfl⟩
      have numeral : IsNumeral first := ⟨digits, short digits⟩
      exact ⟨_, range_error_iff.mpr ⟨first, last, governing, .inr ⟨numeral, refused⟩⟩⟩
    · have refused := (short.error_iff line).mpr ⟨digits, rfl⟩
      exact ⟨_, range_error_iff.mpr ⟨first, last, governing, .inl refused⟩⟩

/-- A line without overlong numbers is at fault if and only if it is bad. -/
theorem lineEffect_fault_iff_bad (line : Nat) (short : HasShortNumbers raw) :
    (∃ fault, lineEffect (ownerAfter none 1 before) line raw = .fault fault) ↔ IsBad before raw := by
  have inside : ownerAfter none 1 before ≠ none ↔ ∃ header ∈ before, IsHeader header := by
    rw [ownerAfter_some_iff]
    simp
  constructor
  · rintro ⟨fault, effect⟩
    obtain ⟨shown, ⟨outdented, other, _⟩ | ⟨indented, some, method, read, refused⟩⟩ := lineEffect_fault_iff.mp effect
    · exact .stray shown outdented (headerLine?_eq_none_iff.mp other)
    · obtain ⟨first, last, governing, _⟩ := range_error_iff.mp refused
      obtain ⟨form, valid, written, numbers⟩ := governing_iff.mp ⟨method, read, governing⟩
      obtain ⟨first_short, last_short⟩ := short form valid written _ numbers
      have wrong := (range_error_of_short governing first_short last_short).mp ⟨fault, refused⟩
      exact .number shown indented (inside.mp some) form valid written first last numbers wrong
  · rintro (⟨shown, outdented, other⟩ | ⟨shown, indented, header, form, valid, written, first, last, numbers, wrong⟩)
    · exact ⟨_, lineEffect_fault_iff.mpr ⟨shown, .inl ⟨outdented, headerLine?_eq_none_iff.mpr other, rfl⟩⟩⟩
    · obtain ⟨first_short, last_short⟩ := short form valid written _ numbers
      obtain ⟨method, read, governing⟩ := governing_iff.mpr ⟨form, valid, written, numbers⟩
      obtain ⟨fault, refused⟩ := (range_error_of_short governing first_short last_short).mpr wrong
      exact ⟨fault, lineEffect_fault_iff.mpr ⟨shown, .inr ⟨indented, inside.mpr header, method, read, refused⟩⟩⟩

/-- Such a fault names its line. -/
theorem lineEffect_fault_message (short : HasShortNumbers raw) (effect : lineEffect owner line raw = .fault fault) :
    fault.kind = .mappingCorrupt ∧ ∃ reason, fault.message = "line " ++ toString line ++ ": " ++ reason := by
  obtain ⟨_, ⟨_, _, rfl⟩ | ⟨_, _, method, read, refused⟩⟩ := lineEffect_fault_iff.mp effect
  · refine ⟨rfl, "unrecognised class mapping " ++ quoted (String.ofList (strip raw)), ?_⟩
    have split : ": unrecognised class mapping " = ": " ++ "unrecognised class mapping " := by decide
    change "line " ++ toString line ++ ": unrecognised class mapping " ++ _ = _
    rw [split]
    simp only [String.append_assoc]
  · obtain ⟨first, last, governing, refused⟩ := range_error_iff.mp refused
    obtain ⟨form, valid, written, numbers⟩ := governing_iff.mp ⟨method, read, governing⟩
    obtain ⟨first_short, last_short⟩ := short form valid written _ numbers
    have wrong : ∃ number, fault = .badLineNumber line (String.ofList number) := by
      rcases refused with refused | ⟨_, refused⟩
      · exact ⟨first, ((first_short.error_iff line).mp refused).2⟩
      · exact ⟨last, ((last_short.error_iff line).mp refused).2⟩
    obtain ⟨number, rfl⟩ := wrong
    refine ⟨rfl, "invalid line number " ++ quoted (String.ofList number), ?_⟩
    have split : ": invalid line number " = ": " ++ "invalid line number " := by decide
    change "line " ++ toString line ++ ": invalid line number " ++ _ = _
    rw [split]
    simp only [String.append_assoc]

theorem badAt_take_iff {count place : Nat} : BadAt (lines.take count) place ↔ place < count ∧ BadAt lines place := by
  rw [BadAt, BadAt, List.getElem?_take]
  by_cases inside : place < count
  · simp [inside, List.take_take, Nat.min_eq_left (Nat.le_of_lt inside)]
  · simp [inside]

theorem badAt_of_fault (short : ∀ raw ∈ lines, HasShortNumbers raw) (stopped : (read lines).fault = some fault) :
    ∃ place, BadAt lines place := by
  obtain ⟨front, raw, back, rfl, _, effect⟩ := readFrom_fault_iff.mp stopped
  have bad := (lineEffect_fault_iff_bad _ (short raw (by simp))).mp ⟨fault, effect⟩
  exact ⟨front.length, raw, by simp, by simpa using bad⟩

/-- The lines in front of the first bad line can be read. -/
theorem readable_before {place : Nat} (short : ∀ raw ∈ lines, HasShortNumbers raw)
    (first : ∀ earlier < place, ¬ BadAt lines earlier) : (read (lines.take place)).fault = none := by
  have short' : ∀ raw ∈ lines.take place, HasShortNumbers raw :=
    fun raw member => short raw (List.mem_of_mem_take member)
  cases stopped : (read (lines.take place)).fault with
  | none => rfl
  | some fault =>
    obtain ⟨earlier, bad⟩ := badAt_of_fault short' stopped
    obtain ⟨before, bad⟩ := badAt_take_iff.mp bad
    exact absurd bad (first earlier before)

theorem stops_at_bad {place : Nat} (short : ∀ raw ∈ lines, HasShortNumbers raw) (bad : BadAt lines place)
    (first : ∀ earlier < place, ¬ BadAt lines earlier) :
    ∃ fault reason, (read lines).fault = some fault ∧ fault.kind = .mappingCorrupt ∧
      fault.message = "line " ++ toString (place + 1) ++ ": " ++ reason ∧
      (read lines).entries = (read (lines.take place)).entries := by
  have readable := readable_before short first
  obtain ⟨raw, found, bad⟩ := bad
  obtain ⟨inside, same⟩ := List.getElem?_eq_some_iff.mp found
  have short' := short raw (List.mem_of_getElem? found)
  have whole : lines.take place ++ raw :: lines.drop (place + 1) = lines := by
    rw [← same, ← List.drop_eq_getElem_cons inside, List.take_append_drop]
  have count : (lines.take place).length = place := List.length_take_of_le (Nat.le_of_lt inside)
  obtain ⟨fault, effect⟩ := (lineEffect_fault_iff_bad (1 + (lines.take place).length) short').mpr bad
  obtain ⟨kind, reason, message⟩ := lineEffect_fault_message short' effect
  have reading : read lines = ⟨(read (lines.take place)).events, some fault⟩ := by
    calc read lines = read (lines.take place ++ raw :: lines.drop (place + 1)) := by rw [whole]
      _ = _ := readFrom_append_fault readable effect
  rw [count, Nat.add_comm] at message
  refine ⟨fault, reason, ?_, kind, message, ?_⟩
  · rw [reading]
  · rw [reading]
    rfl

theorem fault_iff_badAt (short : ∀ raw ∈ lines, HasShortNumbers raw) :
    (∃ fault, (read lines).fault = some fault) ↔ ∃ place, BadAt lines place := by
  constructor
  · rintro ⟨fault, stopped⟩
    exact badAt_of_fault short stopped
  · intro bad
    classical
    obtain ⟨fault, _, stopped, _⟩ :=
      stops_at_bad short (Nat.find_spec bad) fun earlier before => Nat.find_min bad before
    exact ⟨fault, stopped⟩

theorem lineEffect_line {entry : Entry} (effect : lineEffect owner line raw = .event (.entry entry)) :
    entry.line = line := by
  cases lineEffect_iff_does.mp effect with
  | header => rfl
  | method => rfl
  | field => rfl

theorem line_le : ∀ entry ∈ (readFrom owner line lines).entries, line ≤ entry.line := by
  refine readFrom_entries (fun _ later => line ≤ later) (Nat.le_refl line) ?_ ?_
  · intro _ later _ _ bound
    exact Nat.le_succ_of_le bound
  · intro _ later _ _ bound entry effect
    exact (lineEffect_line effect).symm ▸ bound

theorem take_zero (reading : Reading) : reading.take 0 = ⟨[], none⟩ := by
  rw [Reading.take, Reading.takeEvents]

theorem take_entry (count : Nat) (entry : Entry) (reading : Reading) :
    (Reading.cons (.entry entry) reading).take (count + 1) = .cons (.entry entry) (reading.take count) :=
  rfl

/-- Entries that are asked for and exist come without a fault. -/
theorem take_given (events : List Event) (fault : Option Fault) {count : Nat}
    (enough : count ≤ (Reading.mk events fault).entries.length) :
    ((Reading.mk events fault).take count).fault = none ∧
      ((Reading.mk events fault).take count).entries = (Reading.mk events fault).entries.take count := by
  induction events generalizing count with
  | nil =>
    cases Nat.le_zero.mp enough
    exact ⟨rfl, rfl⟩
  | cons event events ih =>
    cases count with
    | zero =>
      rw [take_zero]
      exact ⟨rfl, rfl⟩
    | succ count =>
      cases event with
      | entry entry =>
        obtain ⟨clean, entries⟩ := ih (Nat.le_of_succ_le_succ enough)
        exact ⟨clean, congrArg (entry :: ·) entries⟩
      | notice notice => exact ih enough

/-- What is read up to an entry is read of the lines up to its own. -/
theorem take_line {count : Nat} {entry : Entry} {others : List (List Char)}
    (given : (readFrom owner line lines).entries[count]? = some entry)
    (same : others.take (entry.line + 1 - line) = lines.take (entry.line + 1 - line)) :
    (readFrom owner line others).take (count + 1) = (readFrom owner line lines).take (count + 1) := by
  induction lines generalizing owner line count others with
  | nil => cases given
  | cons raw rest ih =>
    have after := line_le entry (List.mem_of_getElem? given)
    have shift : entry.line + 1 - line = entry.line + 1 - (line + 1) + 1 := by omega
    rw [shift] at same
    cases others with
    | nil => cases same
    | cons other others =>
      obtain ⟨rfl, rest_same⟩ := List.cons.inj same
      rw [readFrom] at given
      rw [readFrom, readFrom]
      cases effect : lineEffect owner line other with
      | nothing =>
        rw [effect] at given
        exact ih given rest_same
      | event event =>
        rw [effect] at given
        cases event with
        | notice notice => exact congrArg (Reading.cons (.notice notice)) (ih given rest_same)
        | entry found =>
          dsimp only
          rw [take_entry, take_entry]
          cases count with
          | zero => rw [take_zero, take_zero]
          | succ count => exact congrArg (Reading.cons (.entry found)) (ih given rest_same)
      | fault fault => rfl

/-- If no line number that counts is too long to be read, the reading of a table
fails if and only if a line is bad. It stops at the first such line with a fault
that names it, and gives the entries of the lines before, which can be read.
Of any table, the first entries are given without a fault, and are settled by the
lines up to that of the last of them, whatever comes after it. -/
theorem read_stops_at_first_bad (lines : List (List Char)) :
    ((∀ raw ∈ lines, HasShortNumbers raw) →
      ((∃ fault, (read lines).fault = some fault) ↔ ∃ place, BadAt lines place) ∧
      ∀ place, BadAt lines place → (∀ earlier < place, ¬ BadAt lines earlier) →
        (∃ fault reason, (read lines).fault = some fault ∧ fault.kind = .mappingCorrupt ∧
          fault.message = "line " ++ toString (place + 1) ++ ": " ++ reason) ∧
        (read (lines.take place)).fault = none ∧ (read lines).entries = (read (lines.take place)).entries) ∧
    ∀ count entry, (read lines).entries[count]? = some entry →
      ((read lines).take (count + 1)).fault = none ∧
      ((read lines).take (count + 1)).entries = (read lines).entries.take (count + 1) ∧
      ∀ others, others.take entry.line = lines.take entry.line →
        (read others).take (count + 1) = (read lines).take (count + 1) := by
  refine ⟨?_, ?_⟩
  · intro short
    refine ⟨fault_iff_badAt short, ?_⟩
    intro place bad first
    obtain ⟨fault, reason, stopped, kind, message, entries⟩ := stops_at_bad short bad first
    exact ⟨⟨fault, reason, stopped, kind, message⟩, readable_before short first, entries⟩
  · intro count entry given
    obtain ⟨inside, _⟩ := List.getElem?_eq_some_iff.mp given
    obtain ⟨clean, entries⟩ := take_given (read lines).events (read lines).fault (Nat.succ_le_of_lt inside)
    refine ⟨clean, entries, ?_⟩
    intro others same
    exact take_line given same

/-- A second method whose last line number is no numeral, and another bad line after
it. The first method stays what it is when the rest of the table is something else. -/
theorem read_stops_at_first_bad_digit :
    let lines := ["a.B -> c:", "  1:2:void m() -> d", "  3:٤:void n() -> e", "oops"].map (·.toList)
    let others := ["a.B -> c:", "  1:2:void m() -> d", "f -> g:"].map (·.toList)
    let entry : Entry := .method ⟨"a.B", "void", "m", "", "d", 1, 2, 2⟩
    (∀ raw ∈ lines, HasShortNumbers raw) ∧ BadAt lines 2 ∧ (∀ earlier < 2, ¬ BadAt lines earlier) ∧
      (read lines).entries[1]? = some entry ∧ others.take entry.line = lines.take entry.line ∧
      (∃ fault reason, (read lines).fault = some fault ∧ fault.kind = .mappingCorrupt ∧
        fault.message = "line 3: " ++ reason) ∧
      (read lines).entries = (read (lines.take 2)).entries ∧ (read others).take 2 = (read lines).take 2 := by
  intro lines others entry
  let form : Form := ⟨some (['3'], ['٤']), "void".toList, [' '], ['n'], [], none, [' '], [' '], ['e']⟩
  have valid : form.WellFormed :=
    ⟨by decide, by decide, by decide, by decide, by decide, by decide, by decide, by decide, by decide⟩
  have short : ∀ raw ∈ lines, HasShortNumbers raw := by
    have lengths : ∀ raw ∈ lines, raw.length ≤ 4300 := by decide
    exact fun raw member => .of_length (lengths raw member)
  have header : ∃ raw ∈ lines.take 2, IsHeader raw :=
    ⟨_, List.mem_cons_self, ['a', '.', 'B'], ['c'], ⟨by decide, by decide, by decide⟩, by decide, by decide⟩
  have bad : BadAt lines 2 :=
    ⟨_, rfl, .number (by decide) (by decide) header form valid (by decide) ['3'] ['٤'] rfl (.inr (by decide))⟩
  have readable : (read (lines.take 2)).fault = none := by decide
  have first : ∀ earlier < 2, ¬ BadAt lines earlier := by
    intro earlier before found
    have stopped := (fault_iff_badAt fun raw member => short raw (List.mem_of_mem_take member)).mpr
      ⟨earlier, badAt_take_iff.mpr ⟨before, found⟩⟩
    rw [readable] at stopped
    obtain ⟨_, stopped⟩ := stopped
    cases stopped
  have given : (read lines).entries[1]? = some entry := by decide
  obtain ⟨stops, streams⟩ := read_stops_at_first_bad lines
  obtain ⟨fault, _, entries⟩ := (stops short).2 2 bad first
  obtain ⟨_, _, same⟩ := streams 1 entry given
  exact ⟨short, bad, first, given, rfl, fault, entries, same others rfl⟩

end Deobfuscator.Proofs.FirstBadLine
