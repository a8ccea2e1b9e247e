import Deobfuscator.Mapping.Reading
import Deobfuscator.Proofs.Numerals
import Deobfuscator.Proofs.TextCuts

/-! Methods as they are written. A text is read as a method if and only if it is
the written form of one, and no text is the written form of two. So names that
hold colons or closing brackets, arguments that hold blanks, and a range in front
of the type leave no choice to the reader. -/

namespace Deobfuscator.Proofs.MethodGrammar
open Text Mapping TextCuts Numerals

/-- A method in all its parts, the blanks between them included. -/
structure Form where
  leading : Option (List Char × List Char)
  returnType : List Char
  beforeName : List Char
  name : List Char
  arguments : List Char
  trailing : Option (List Char × Option (List Char))
  beforeArrow : List Char
  afterArrow : List Char
  obfuscated : List Char

def leadingText : Option (List Char × List Char) → List Char
  | none => []
  | some (first, last) => first ++ ':' :: last ++ [':']

def trailingText : Option (List Char × Option (List Char)) → List Char
  | none => []
  | some (first, none) => ':' :: first
  | some (first, some last) => ':' :: first ++ ':' :: last

namespace Form

/-- What is written in front of the name. -/
def head (form : Form) : List Char := leadingText form.leading ++ form.returnType

/-- What is written after the arguments. -/
def rest (form : Form) : List Char :=
  trailingText form.trailing ++ (form.beforeArrow ++ (arrow ++ (form.afterArrow ++ form.obfuscated)))

/-- What is written from the name on. -/
def named (form : Form) : List Char := form.name ++ '(' :: (form.arguments ++ ')' :: form.rest)

/-- The written form. -/
def text (form : Form) : List Char := form.head ++ (form.beforeName ++ form.named)

end Form

/-- What may stand for a line number. Whether it is a numeral is asked later. -/
structure IsNumber (text : List Char) : Prop where
  word : IsWord text
  colon : ':' ∉ text

structure IsType (text : List Char) : Prop extends IsNumber text where
  bracket : '(' ∉ text

structure IsName (text : List Char) : Prop where
  word : IsWord text
  bracket : '(' ∉ text

instance (text : List Char) : Decidable (IsNumber text) :=
  decidable_of_iff (IsWord text ∧ ':' ∉ text) ⟨fun valid => ⟨valid.1, valid.2⟩, fun valid => ⟨valid.word, valid.colon⟩⟩

instance (text : List Char) : Decidable (IsType text) :=
  decidable_of_iff (IsNumber text ∧ '(' ∉ text)
    ⟨fun valid => ⟨valid.1, valid.2⟩, fun valid => ⟨valid.toIsNumber, valid.bracket⟩⟩

instance (text : List Char) : Decidable (IsName text) :=
  decidable_of_iff (IsWord text ∧ '(' ∉ text)
    ⟨fun valid => ⟨valid.1, valid.2⟩, fun valid => ⟨valid.word, valid.bracket⟩⟩

structure Form.WellFormed (form : Form) : Prop where
  leading : ∀ range ∈ form.leading, IsNumber range.1 ∧ IsNumber range.2
  returnType : IsType form.returnType
  beforeName : IsGap form.beforeName
  name : IsName form.name
  arguments : ')' ∉ form.arguments
  trailing : ∀ range ∈ form.trailing, IsNumber range.1 ∧ ∀ last ∈ range.2, IsNumber last
  beforeArrow : IsGap form.beforeArrow
  afterArrow : IsGap form.afterArrow
  obfuscated : IsWord form.obfuscated

/-- The parts that a reader keeps. -/
def Form.parts (form : Form) : MethodLine where
  leading := form.leading
  returnType := form.returnType
  name := form.name
  arguments := strip form.arguments
  trailing := form.trailing
  obfuscated := form.obfuscated

private theorem isNumber_of_piece {word piece : List Char} (free : BlankFree word)
    (member : piece ∈ pieces ':' word) (some : piece ≠ []) : IsNumber piece :=
  ⟨⟨some, fun c inside => free c (mem_of_mem_pieces member inside).1⟩, not_mem_of_mem_pieces member⟩

theorem methodHead?_iff {word returnType : List Char} {leading : Option (List Char × List Char)}
    (free : BlankFree word) :
    methodHead? word = some (leading, returnType) ↔ leadingText leading ++ returnType = word ∧
      (∀ range ∈ leading, IsNumber range.1 ∧ IsNumber range.2) ∧ IsType returnType := by
  constructor
  · intro read
    have whole := joined_pieces ':' word
    rw [methodHead?] at read
    split at read
    next found split =>
      rw [split] at whole
      split at read
      next => cases read
      next valid =>
        cases read
        simp only [Bool.or_eq_true, List.isEmpty_iff, List.contains_iff_mem, not_or] at valid
        refine ⟨by simpa [leadingText, joined] using whole, by simp, ?_⟩
        exact ⟨isNumber_of_piece free (by simp [split]) valid.1, valid.2⟩
    next first last found split =>
      rw [split] at whole
      split at read
      next => cases read
      next valid =>
        cases read
        simp only [Bool.or_eq_true, List.isEmpty_iff, List.contains_iff_mem, not_or] at valid
        obtain ⟨⟨⟨first_some, last_some⟩, type_some⟩, bracket⟩ := valid
        refine ⟨by simpa [leadingText, joined] using whole, ?_, ?_⟩
        · rintro range ⟨⟩
          exact ⟨isNumber_of_piece free (by simp [split]) first_some,
            isNumber_of_piece free (by simp [split]) last_some⟩
        · exact ⟨isNumber_of_piece free (by simp [split]) type_some, bracket⟩
    next => cases read
  · rintro ⟨rfl, numbers, type⟩
    rw [methodHead?]
    rcases leading with _ | ⟨first, last⟩
    · have split : pieces ':' (leadingText none ++ returnType) = [returnType] := pieces_eq_singleton type.colon
      simp [split, type.word.some, type.bracket]
    · obtain ⟨number, number'⟩ := numbers _ rfl
      have split : pieces ':' (leadingText (some (first, last)) ++ returnType) = [first, last, returnType] := by
        refine pieces_eq_iff.mpr ⟨List.cons_ne_nil _ _, ?_, by simp [leadingText, joined]⟩
        simp [number.colon, number'.colon, type.colon]
      simp [split, number.word.some, number'.word.some, type.word.some, type.bracket]

theorem methodTail?_iff {word : List Char} {trailing : Option (List Char × Option (List Char))}
    (free : BlankFree word) :
    methodTail? word = some trailing ↔ trailingText trailing = word ∧
      ∀ range ∈ trailing, IsNumber range.1 ∧ ∀ last ∈ range.2, IsNumber last := by
  constructor
  · intro read
    have whole := joined_pieces ':' word
    rw [methodTail?] at read
    split at read
    next split =>
      rw [split] at whole
      cases read
      exact ⟨by simpa [trailingText, joined] using whole, by simp⟩
    next first split =>
      rw [split] at whole
      split at read
      next => cases read
      next valid =>
        cases read
        rw [List.isEmpty_iff] at valid
        refine ⟨by simpa [trailingText, joined] using whole, ?_⟩
        rintro range ⟨⟩
        exact ⟨isNumber_of_piece free (by simp [split]) valid, by simp⟩
    next first last split =>
      rw [split] at whole
      split at read
      next => cases read
      next valid =>
        cases read
        simp only [Bool.or_eq_true, List.isEmpty_iff, not_or] at valid
        refine ⟨by simpa [trailingText, joined] using whole, ?_⟩
        rintro range ⟨⟩
        refine ⟨isNumber_of_piece free (by simp [split]) valid.1, ?_⟩
        rintro last ⟨⟩
        exact isNumber_of_piece free (by simp [split]) valid.2
    next => cases read
  · rintro ⟨rfl, numbers⟩
    rw [methodTail?]
    rcases trailing with _ | ⟨first, _ | last⟩
    · rfl
    · obtain ⟨number, _⟩ := numbers _ rfl
      have split : pieces ':' (trailingText (some (first, none))) = [[], first] := by
        refine pieces_eq_iff.mpr ⟨List.cons_ne_nil _ _, ?_, by simp [trailingText, joined]⟩
        simp [number.colon]
      simp [split, number.word.some]
    · obtain ⟨number, others⟩ := numbers _ rfl
      have number' := others last rfl
      have split : pieces ':' (trailingText (some (first, some last))) = [[], first, last] := by
        refine pieces_eq_iff.mpr ⟨List.cons_ne_nil _ _, ?_, by simp [trailingText, joined]⟩
        simp [number.colon, number'.colon]
      simp [split, number.word.some, number'.word.some]

theorem isNameChar_iff {c : Char} : isNameChar c = true ↔ isBlank c = false ∧ c ≠ '(' := by
  simp [isNameChar]

theorem methodName?_iff {text name arguments rest : List Char} :
    methodName? text = some (name, arguments, rest) ↔
      name ++ '(' :: (arguments ++ ')' :: rest) = text ∧ IsName name ∧ ')' ∉ arguments := by
  constructor
  · intro read
    obtain ⟨whole, named, _⟩ := cut_parts isNameChar text
    rw [methodName?] at read
    split at read
    next => cases read
    next inner split some =>
      obtain ⟨whole', unclosed, _⟩ := cut_parts (· != ')') inner
      split at read
      next after closed =>
        cases read
        rw [closed] at whole'
        rw [split, ← whole'] at whole
        refine ⟨whole, ⟨⟨some, ?_⟩, ?_⟩, ?_⟩
        · exact fun c member => (isNameChar_iff.mp (named c member)).1
        · exact fun member => (isNameChar_iff.mp (named '(' member)).2 rfl
        · exact fun member => absurd (unclosed _ member) (by simp)
      next => cases read
    next => cases read
  · rintro ⟨rfl, valid, closed⟩
    have named : ∀ c ∈ name, isNameChar c = true := by
      intro c member
      refine isNameChar_iff.mpr ⟨valid.word.free c member, ?_⟩
      rintro rfl
      exact valid.bracket member
    have inside : ∀ c ∈ arguments, (c != ')') = true := by
      intro c member
      rw [bne_iff_ne]
      rintro rfl
      exact closed member
    obtain ⟨taken, dropped⟩ := cut_append named ('(' :: (arguments ++ ')' :: rest)) (by simp [isNameChar])
    obtain ⟨taken', dropped'⟩ := cut_append inside (')' :: rest) (by simp)
    obtain ⟨c, more, rfl⟩ := List.exists_cons_of_ne_nil valid.word.some
    simp only [methodName?, taken, dropped, taken', dropped']

theorem arrow_isWord : IsWord arrow := ⟨List.cons_ne_nil _ _, by decide⟩

theorem trailing_free {trailing : Option (List Char × Option (List Char))}
    (numbers : ∀ range ∈ trailing, IsNumber range.1 ∧ ∀ last ∈ range.2, IsNumber last) :
    BlankFree (trailingText trailing) := by
  have colon : BlankFree [':'] := by decide
  rcases trailing with _ | ⟨first, _ | last⟩
  · exact fun c inside => absurd inside List.not_mem_nil
  · obtain ⟨number, _⟩ := numbers _ rfl
    exact colon.append number.word.free
  · obtain ⟨number, others⟩ := numbers _ rfl
    exact (colon.append number.word.free).append (colon.append (others last rfl).word.free)

/-- The end of a text that does not end with a blank. -/
theorem written_of_methodEnd {text obfuscated : List Char} {trailing : Option (List Char × Option (List Char))}
    (ended : ∀ c ∈ text.getLast?, isBlank c = false) (read : methodEnd? text = some (trailing, obfuscated)) :
    ∃ beforeArrow afterArrow,
      trailingText trailing ++ (beforeArrow ++ (arrow ++ (afterArrow ++ obfuscated))) = text ∧
      (∀ range ∈ trailing, IsNumber range.1 ∧ ∀ last ∈ range.2, IsNumber last) ∧
      IsGap beforeArrow ∧ IsGap afterArrow ∧ IsWord obfuscated := by
  obtain ⟨whole, free, boundary⟩ := word_parts text
  rw [methodEnd?] at read
  split at read
  next between last split =>
    split at read
    next same =>
      subst same
      obtain ⟨found, tail, pair⟩ := Option.map_eq_some_iff.mp read
      cases pair
      obtain ⟨written, numbers⟩ := (methodTail?_iff free).mp tail
      rw [← whole] at ended
      obtain ⟨before, after, whole', blank, valid, gap, word⟩ := pair_of_words (ended_of_append ended) split
      rw [← whole'] at boundary whole
      rw [← written] at whole
      exact ⟨before, after, whole, numbers, .of_start blank valid boundary, gap, word⟩
    next => cases read
  next => cases read

theorem methodEnd_of_written {trailing : Option (List Char × Option (List Char))}
    {beforeArrow afterArrow obfuscated : List Char}
    (numbers : ∀ range ∈ trailing, IsNumber range.1 ∧ ∀ last ∈ range.2, IsNumber last) (gap : IsGap beforeArrow)
    (gap' : IsGap afterArrow) (word : IsWord obfuscated) :
    methodEnd? (trailingText trailing ++ (beforeArrow ++ (arrow ++ (afterArrow ++ obfuscated)))) =
      some (trailing, obfuscated) := by
  obtain ⟨taken, dropped⟩ := word_append (trailing_free numbers)
    (beforeArrow ++ (arrow ++ (afterArrow ++ obfuscated))) (gap.start _)
  have split := words_pair gap.blank arrow_isWord gap' word
  have tail := (methodTail?_iff (trailing_free numbers)).mpr ⟨rfl, numbers⟩
  simp [methodEnd?, taken, dropped, split, tail]

theorem head_free {form : Form} (valid : form.WellFormed) : BlankFree form.head := by
  have colon : BlankFree [':'] := by decide
  have type := valid.returnType.word.free
  rw [Form.head]
  cases leading : form.leading with
  | none => exact type
  | some range =>
    obtain ⟨number, number'⟩ := valid.leading range leading
    exact ((number.word.free.append (colon.append number'.word.free)).append colon).append type

theorem head_read {form : Form} (valid : form.WellFormed) :
    methodHead? form.head = some (form.leading, form.returnType) :=
  (methodHead?_iff (head_free valid)).mpr ⟨rfl, valid.leading, valid.returnType⟩

theorem named_read {form : Form} (valid : form.WellFormed) :
    methodName? form.named = some (form.name, form.arguments, form.rest) :=
  methodName?_iff.mpr ⟨rfl, valid.name, valid.arguments⟩

theorem rest_read {form : Form} (valid : form.WellFormed) :
    methodEnd? form.rest = some (form.trailing, form.obfuscated) :=
  methodEnd_of_written valid.trailing valid.beforeArrow valid.afterArrow valid.obfuscated

theorem methodLine?_text {form : Form} (valid : form.WellFormed) : methodLine? form.text = some form.parts := by
  obtain ⟨taken, dropped⟩ := word_append (head_free valid) (form.beforeName ++ form.named) (valid.beforeName.start _)
  obtain ⟨_, dropped'⟩ := cut_append valid.beforeName.blank form.named (valid.name.word.start _)
  simp only [methodLine?, Form.text, taken, dropped, dropped', head_read valid, named_read valid, rest_read valid, bind,
    Option.bind]
  rfl

theorem form_of_methodLine? {text : List Char} {method : MethodLine} (stripped : IsStripped text)
    (read : methodLine? text = some method) :
    ∃ form : Form, form.WellFormed ∧ form.text = text ∧ form.parts = method := by
  obtain ⟨whole, free, boundary⟩ := word_parts text
  obtain ⟨whole', blank, _⟩ := cut_parts isBlank (text.dropWhile (!isBlank ·))
  simp only [methodLine?, bind, Option.bind_eq_some_iff, Prod.exists] at read
  obtain ⟨leading, returnType, head, name, arguments, rest, named, trailing, obfuscated, tail, same⟩ := read
  cases same
  obtain ⟨written, numbers, type⟩ := (methodHead?_iff free).mp head
  obtain ⟨written', valid, closed⟩ := methodName?_iff.mp named
  rw [← written'] at whole'
  rw [← whole'] at whole boundary
  -- What follows the arguments ends where the text does, which is stripped.
  have ended : ∀ c ∈ rest.getLast?, isBlank c = false := by
    have split : ∀ front : List Char,
        front ++ '(' :: (arguments ++ ')' :: rest) = front ++ '(' :: (arguments ++ [')']) ++ rest := by simp
    rw [← whole, ← List.append_assoc, ← List.append_assoc, split] at stripped
    exact ended_of_append stripped.last
  obtain ⟨beforeArrow, afterArrow, written'', numbers', gap, gap', word⟩ := written_of_methodEnd ended tail
  refine ⟨⟨leading, returnType, _, name, arguments, trailing, beforeArrow, afterArrow, obfuscated⟩,
    ⟨numbers, type, .of_start blank valid.word boundary, valid, closed, numbers', gap, gap', word⟩, ?_, rfl⟩
  simp only [Form.text, Form.head, Form.named, Form.rest, written, written'', whole]

/-- No text is the written form of two methods: each part ends where its
characters do. -/
theorem text_injective {form other : Form} (valid : form.WellFormed) (valid' : other.WellFormed)
    (same : form.text = other.text) : form = other := by
  -- Cut both texts from the left, with a blank or a word next; what is between two
  -- cuts is then read, and reading tells its parts.
  obtain ⟨head, gapped⟩ := word_unique same (head_free valid) (valid.beforeName.start _) (head_free valid')
    (valid'.beforeName.start _)
  obtain ⟨beforeName, named⟩ := cut_unique gapped valid.beforeName.blank (valid.name.word.start _)
    valid'.beforeName.blank (valid'.name.word.start _)
  have front := (head_read valid).symm.trans (head ▸ head_read valid')
  have middle := (named_read valid).symm.trans (named ▸ named_read valid')
  simp only [Option.some.injEq, Prod.mk.injEq] at front middle
  obtain ⟨name, arguments, rest⟩ := middle
  have back := (rest_read valid).symm.trans (rest ▸ rest_read valid')
  simp only [Option.some.injEq, Prod.mk.injEq] at back
  obtain ⟨_, spaced⟩ := word_unique rest (trailing_free valid.trailing) (valid.beforeArrow.start _)
    (trailing_free valid'.trailing) (valid'.beforeArrow.start _)
  obtain ⟨beforeArrow, pointed⟩ := cut_unique spaced valid.beforeArrow.blank (arrow_isWord.start _)
    valid'.beforeArrow.blank (arrow_isWord.start _)
  obtain ⟨leading, returnType⟩ := front
  obtain ⟨trailing, obfuscated⟩ := back
  have afterArrow : form.afterArrow = other.afterArrow := by
    have last := List.append_cancel_left pointed
    rw [obfuscated] at last
    exact List.append_cancel_right last
  cases form
  cases other
  rw [Form.mk.injEq]
  exact ⟨leading, returnType, beforeName, name, arguments, trailing, beforeArrow, afterArrow, obfuscated⟩

/-- The numbers of the range, if any are written. A range in front of the type
goes before one after the arguments, and a single number is both ends. -/
def Form.numbers (form : Form) : Option (List Char × List Char) :=
  match form.leading, form.trailing with
  | some range, _ => some range
  | none, some (first, some last) => some (first, last)
  | none, some (first, none) => some (first, first)
  | none, none => none

/-- The range that a method is about: the values of its numbers, or 0 and 0. -/
def Form.range (form : Form) : Nat × Nat :=
  match form.numbers with
  | some (first, last) => (decimalValue first, decimalValue last)
  | none => (0, 0)

/-- The entry that a method in a class comes to. -/
def Form.entry (form : Form) (owner : String) (line : Nat) : MethodEntry where
  owner := owner
  returnType := String.ofList form.returnType
  plain := String.ofList form.name
  arguments := String.ofList (strip form.arguments)
  obfuscated := String.ofList form.obfuscated
  first := form.range.1
  last := form.range.2
  line := line

theorem governing_parts (form : Form) : form.parts.governing = form.numbers := by
  rw [MethodLine.governing, Form.numbers, Form.parts]
  rcases form.leading with _ | range
  · rcases form.trailing with _ | ⟨first, _ | last⟩ <;> rfl
  · rfl

theorem readLineNumber_ok_iff {line n : Nat} {number : List Char} :
    readLineNumber line number = .ok n ↔ IsNumeral number ∧ decimalValue number = n := by
  rw [← readNatural_ok_iff, readLineNumber]
  split
  next found => simp [found]
  next found => simp [found]
  next found => simp [found]

private theorem bind_ok {α β : Type} {first : Except Fault α} {next : α → Except Fault β} {result : β}
    (done : (first >>= next) = .ok result) : ∃ value, first = .ok value ∧ next value = .ok result := by
  cases first with
  | error fault => cases done
  | ok value => exact ⟨value, rfl, done⟩

theorem range_parts {form : Form} {line : Nat} {range : Nat × Nat} :
    form.parts.range line = .ok range ↔
      (∀ numbers ∈ form.numbers, IsNumeral numbers.1 ∧ IsNumeral numbers.2) ∧ form.range = range := by
  rw [MethodLine.range, governing_parts, Form.range]
  rcases form.numbers with _ | ⟨first, last⟩
  · simp
  · simp only [Option.mem_some_iff, forall_eq']
    constructor
    · intro read
      obtain ⟨n, first_read, read⟩ := bind_ok read
      obtain ⟨m, last_read, read⟩ := bind_ok read
      cases read
      obtain ⟨numeral, rfl⟩ := readLineNumber_ok_iff.mp first_read
      obtain ⟨numeral', rfl⟩ := readLineNumber_ok_iff.mp last_read
      exact ⟨⟨numeral, numeral'⟩, rfl⟩
    · rintro ⟨⟨numeral, numeral'⟩, rfl⟩
      rw [readLineNumber_ok_iff.mpr ⟨numeral, rfl⟩, readLineNumber_ok_iff.mpr ⟨numeral', rfl⟩]
      rfl

theorem lineEffect_member {raw : List Char} (shown : isSilent raw = false) (indented : isIndented raw = true)
    (owner : String) (line : Nat) : lineEffect (some owner) line raw = memberEffect owner line (strip raw) := by
  simp [lineEffect, shown, indented]

theorem memberEffect_entry_iff {form : Form} (valid : form.WellFormed) {owner : String} {line : Nat} {entry : Entry} :
    memberEffect owner line form.text = .event (.entry entry) ↔
      (∀ numbers ∈ form.numbers, IsNumeral numbers.1 ∧ IsNumeral numbers.2) ∧
        entry = .method (form.entry owner line) := by
  rw [memberEffect, methodLine?_text valid]
  dsimp only
  constructor
  · intro effect
    split at effect
    next range read =>
      cases effect
      obtain ⟨numerals, rfl⟩ := range_parts.mp read
      exact ⟨numerals, rfl⟩
    next => cases effect
  · rintro ⟨numerals, rfl⟩
    rw [range_parts.mpr ⟨numerals, rfl⟩]
    rfl

/-- An indented line of a class is read as a method if and only if it is, without
the blanks around it, the written form of one. It is the written form of no other
method, and the entry has just its parts, provided that its range is written in
numerals; else there is no entry. -/
theorem method_read_iff_written (owner : String) (line : Nat) (raw : List Char) (indented : isIndented raw = true)
    (shown : isSilent raw = false) :
    (∀ method, methodLine? (strip raw) = some method ↔
      ∃ form : Form, form.WellFormed ∧ form.text = strip raw ∧ form.parts = method) ∧
    ∀ form : Form, form.WellFormed → form.text = strip raw →
      (∀ other : Form, other.WellFormed → other.text = strip raw → other = form) ∧
      ∀ entry, lineEffect (some owner) line raw = .event (.entry entry) ↔
        (∀ numbers ∈ form.numbers, IsNumeral numbers.1 ∧ IsNumeral numbers.2) ∧
          entry = .method (form.entry owner line) := by
  refine ⟨?_, ?_⟩
  · intro method
    refine ⟨form_of_methodLine? (strip_isStripped raw), ?_⟩
    rintro ⟨form, valid, written, rfl⟩
    rw [← written]
    exact methodLine?_text valid
  · intro form valid written
    refine ⟨fun other valid' written' => text_injective valid' valid (written'.trans written.symm), ?_⟩
    intro entry
    rw [lineEffect_member shown indented, ← written]
    exact memberEffect_entry_iff valid

/-- A name with a colon and a bracket, arguments with an opening bracket, a
trailing range that is no numeral and a name like an arrow. -/
theorem method_read_ambiguous_looking :
    let raw := "  3:07:a.B o:p)(int, (x ):9:y ->  ->\t".toList
    isIndented raw = true ∧ isSilent raw = false ∧
      lineEffect (some "C") 4 raw = .event (.entry (.method ⟨"C", "a.B", "o:p)", "int, (x", "->", 3, 7, 4⟩)) := by
  intro raw
  let form : Form :=
    ⟨some (['3'], ['0', '7']), "a.B".toList, [' '], "o:p)".toList, "int, (x ".toList, some (['9'], some ['y']), [' '],
      [' ', ' '], "->".toList⟩
  have indented : isIndented raw = true := by decide
  have shown : isSilent raw = false := by decide
  have valid : form.WellFormed := by constructor <;> decide
  have written : form.text = strip raw := by decide
  have numerals : ∀ numbers ∈ form.numbers, IsNumeral numbers.1 ∧ IsNumeral numbers.2 := by
    rintro numbers ⟨⟩
    exact ⟨by decide, by decide⟩
  have entry : Entry.method ⟨"C", "a.B", "o:p)", "int, (x", "->", 3, 7, 4⟩ = .method (form.entry "C" 4) := by
    decide
  refine ⟨indented, shown, ?_⟩
  exact (((method_read_iff_written "C" 4 raw indented shown).2 form valid written).2 _).mpr ⟨numerals, entry⟩

end Deobfuscator.Proofs.MethodGrammar
