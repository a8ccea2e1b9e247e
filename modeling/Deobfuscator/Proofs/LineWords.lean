import Deobfuscator.Proofs.SpacedWords
import Deobfuscator.Proofs.TableSegments

/-! Headers and fields as they are written, and by their words. Both come to the same:
a word is never cut by what is written around it. No text is the written form of a
method and of a field, so it does not matter which of the two is tried first. -/

namespace Deobfuscator.Proofs.LineWords
open Text Mapping TextCuts SpacedWords MethodGrammar TableSegments

/-- A header in all its parts, the blanks between them included. -/
structure HeaderForm where
  plain : List Char
  beforeArrow : List Char
  afterArrow : List Char
  obfuscated : List Char

namespace HeaderForm

def text (form : HeaderForm) : List Char :=
  form.plain ++ (form.beforeArrow ++ (arrow ++ (form.afterArrow ++ (form.obfuscated ++ [':']))))

def parts (form : HeaderForm) : HeaderLine := ⟨form.plain, form.obfuscated⟩

structure WellFormed (form : HeaderForm) : Prop where
  plain : IsWord form.plain
  beforeArrow : IsGap form.beforeArrow
  afterArrow : IsGap form.afterArrow
  obfuscated : IsWord form.obfuscated
  colon : ':' ∉ form.obfuscated

end HeaderForm

/-- A field in all its parts, the blanks between them included. -/
structure FieldForm where
  fieldType : List Char
  beforeName : List Char
  name : List Char
  beforeArrow : List Char
  afterArrow : List Char
  obfuscated : List Char

namespace FieldForm

def text (form : FieldForm) : List Char :=
  form.fieldType ++ (form.beforeName ++ (form.name ++ (form.beforeArrow ++ (arrow ++
    (form.afterArrow ++ form.obfuscated)))))

def parts (form : FieldForm) : FieldLine := ⟨form.fieldType, form.name, form.obfuscated⟩

structure WellFormed (form : FieldForm) : Prop where
  fieldType : IsName form.fieldType
  beforeName : IsGap form.beforeName
  name : IsName form.name
  beforeArrow : IsGap form.beforeArrow
  afterArrow : IsGap form.afterArrow
  obfuscated : IsWord form.obfuscated

end FieldForm

/-- The written form of a field, by its words. -/
structure IsFieldText (text fieldType name obfuscated : List Char) : Prop where
  split : words text = [fieldType, name, arrow, obfuscated]
  typeBracket : '(' ∉ fieldType
  nameBracket : '(' ∉ name

variable {text plain obfuscated fieldType name : List Char}

theorem isWord_ended_iff {word : List Char} : IsWord (word ++ [':']) ↔ BlankFree word := by
  have colon : BlankFree [':'] := by decide
  constructor
  · intro valid c inside
    exact valid.free c (List.mem_append_left _ inside)
  · intro free
    exact ⟨by simp, free.append colon⟩

theorem HeaderForm.WellFormed.isHeaderText {form : HeaderForm} (valid : form.WellFormed) :
    IsHeaderText form.text form.plain form.obfuscated := by
  have ended : Spaced [form.obfuscated ++ [':']] (form.obfuscated ++ [':']) :=
    .word (isWord_ended_iff.mpr valid.obfuscated.free)
  have spaced : Spaced [form.plain, arrow, form.obfuscated ++ [':']] form.text :=
    .next valid.plain valid.beforeArrow (.next arrow_isWord valid.afterArrow ended)
  exact ⟨spaced.words_eq, valid.obfuscated.some, valid.colon⟩

theorem header_written_iff (stripped : IsStripped text) :
    (∃ form : HeaderForm, form.WellFormed ∧ form.text = text ∧ form.parts = ⟨plain, obfuscated⟩) ↔
      IsHeaderText text plain obfuscated := by
  constructor
  · rintro ⟨form, valid, rfl, ⟨⟩⟩
    exact valid.isHeaderText
  · rintro ⟨split, named, colon⟩
    have spaced := spaced_of_words stripped split
    simp only [spaced_cons_iff, spaced_singleton_iff] at spaced
    obtain ⟨plain_valid, beforeArrow, _, gap, ⟨_, afterArrow, _, gap', ⟨ended, rfl⟩, rfl⟩, rfl⟩ := spaced
    have obfuscated_valid : IsWord obfuscated := ⟨named, isWord_ended_iff.mp ended⟩
    exact ⟨⟨plain, beforeArrow, afterArrow, obfuscated⟩, ⟨plain_valid, gap, gap', obfuscated_valid, colon⟩, rfl, rfl⟩

theorem fieldLine?_iff :
    fieldLine? text = some ⟨fieldType, name, obfuscated⟩ ↔ IsFieldText text fieldType name obfuscated := by
  rw [fieldLine?]
  constructor
  · intro read
    split at read
    next split =>
      split at read
      next valid =>
        obtain ⟨rfl, typeBracket, nameBracket⟩ := valid
        cases read
        exact ⟨split, typeBracket, nameBracket⟩
      next => cases read
    next => cases read
  · rintro ⟨split, typeBracket, nameBracket⟩
    rw [split]
    simp [typeBracket, nameBracket]

theorem FieldForm.WellFormed.isFieldText {form : FieldForm} (valid : form.WellFormed) :
    IsFieldText form.text form.fieldType form.name form.obfuscated := by
  have spaced : Spaced [form.fieldType, form.name, arrow, form.obfuscated] form.text :=
    .next valid.fieldType.word valid.beforeName
      (.next valid.name.word valid.beforeArrow (.next arrow_isWord valid.afterArrow (.word valid.obfuscated)))
  exact ⟨spaced.words_eq, valid.fieldType.bracket, valid.name.bracket⟩

theorem field_written_iff (stripped : IsStripped text) :
    (∃ form : FieldForm, form.WellFormed ∧ form.text = text ∧ form.parts = ⟨fieldType, name, obfuscated⟩) ↔
      IsFieldText text fieldType name obfuscated := by
  constructor
  · rintro ⟨form, valid, rfl, ⟨⟩⟩
    exact valid.isFieldText
  · rintro ⟨split, typeBracket, nameBracket⟩
    have spaced := spaced_of_words stripped split
    simp only [spaced_cons_iff, spaced_singleton_iff] at spaced
    obtain ⟨type_word, beforeName, _, gap, ⟨name_word, beforeArrow, _, gap', ⟨_, afterArrow, _, gap'', ⟨word, rfl⟩,
      rfl⟩, rfl⟩, rfl⟩ := spaced
    exact ⟨⟨fieldType, beforeName, name, beforeArrow, afterArrow, obfuscated⟩,
      ⟨⟨type_word, typeBracket⟩, gap, ⟨name_word, nameBracket⟩, gap', gap'', word⟩, rfl, rfl⟩

/-- The second word of a method holds the bracket that follows its name. -/
theorem method_words {form : Form} (valid : form.WellFormed) :
    ∃ second more, words form.text = form.head :: second :: more ∧ '(' ∈ second := by
  -- The second word is all of the rest up to a blank, so it goes on past the name.
  obtain ⟨whole, free, boundary⟩ := word_parts form.named
  have bracket : '(' ∈ form.named.takeWhile (!isBlank ·) := by
    have named : ∀ c ∈ form.name, (!isBlank c) = true := fun c inside => by rw [valid.name.word.free c inside]; rfl
    rw [Form.named, List.takeWhile_append_of_pos named]
    exact List.mem_append_right _ (by simp [(by decide : isBlank '(' = false)])
  have first : IsWord form.head := ⟨by simp [Form.head, valid.returnType.word.some], head_free valid⟩
  refine ⟨_, words (form.named.dropWhile (!isBlank ·)), ?_, bracket⟩
  rw [Form.text, words_word_append first (valid.beforeName.start _), words_gap_append valid.beforeName.blank]
  congr 1
  have second : IsWord (form.named.takeWhile (!isBlank ·)) := ⟨List.ne_nil_of_mem bracket, free⟩
  rw [← words_word_append second boundary, whole]

theorem method_not_field {form : Form} (valid : form.WellFormed) : ¬ IsFieldText form.text fieldType name obfuscated := by
  rintro ⟨split, _, nameBracket⟩
  obtain ⟨second, more, split', bracket⟩ := method_words valid
  rw [split, List.cons.injEq, List.cons.injEq] at split'
  obtain ⟨_, rfl, _⟩ := split'
  exact nameBracket bracket

/-- What a member line does if it is tried as a field before it is tried as a method. -/
def fieldFirstEffect (owner : String) (line : Nat) (text : List Char) : Effect :=
  match fieldLine? text with
  | some field =>
    .event (.entry (.field
      ⟨owner, String.ofList field.fieldType, String.ofList field.name, String.ofList field.obfuscated, line⟩))
  | none =>
    match methodLine? text with
    | some method =>
      match method.range line with
      | .ok range => .event (.entry (.method (method.entry owner line range)))
      | .error fault => .fault fault
    | none => .event (.notice (.unrecognised line (String.ofList text)))

theorem fieldFirstEffect_eq (stripped : IsStripped text) (owner : String) (line : Nat) :
    fieldFirstEffect owner line text = memberEffect owner line text := by
  rw [fieldFirstEffect, memberEffect]
  cases method_read : methodLine? text with
  | none => cases fieldLine? text <;> rfl
  | some method =>
    cases field_read : fieldLine? text with
    | none => rfl
    | some field =>
      obtain ⟨form, valid, rfl, _⟩ := form_of_methodLine? stripped method_read
      exact absurd (fieldLine?_iff.mp field_read) (method_not_field valid)

/-- A stripped text is a header if and only if its words are a name, an arrow and a
name without colons before a colon, and a field if and only if its words are two
without an opening bracket, an arrow and a name. Its parts are these words, and a
member line comes to the same whether it is tried as a field or as a method first, as
no text is the written form of both. -/
theorem line_read_by_words (text : List Char) :
    (IsStripped text →
      (∀ plain obfuscated,
        ((∃ form : HeaderForm, form.WellFormed ∧ form.text = text ∧ form.parts = ⟨plain, obfuscated⟩) ↔
          IsHeaderText text plain obfuscated) ∧
        (headerLine? text = some ⟨plain, obfuscated⟩ ↔ IsHeaderText text plain obfuscated)) ∧
      (∀ fieldType name obfuscated,
        ((∃ form : FieldForm, form.WellFormed ∧ form.text = text ∧ form.parts = ⟨fieldType, name, obfuscated⟩) ↔
          IsFieldText text fieldType name obfuscated) ∧
        (fieldLine? text = some ⟨fieldType, name, obfuscated⟩ ↔ IsFieldText text fieldType name obfuscated)) ∧
      ∀ owner line, fieldFirstEffect owner line text = memberEffect owner line text) ∧
    ¬ ((∃ form : Form, form.WellFormed ∧ form.text = text) ∧
      ∃ form : FieldForm, form.WellFormed ∧ form.text = text) := by
  refine ⟨?_, ?_⟩
  · intro stripped
    refine ⟨?_, ?_, fieldFirstEffect_eq stripped⟩
    · intro plain obfuscated
      exact ⟨header_written_iff stripped, headerLine?_iff⟩
    · intro fieldType name obfuscated
      exact ⟨field_written_iff stripped, fieldLine?_iff⟩
  · rintro ⟨⟨method, valid, written⟩, field, valid', written'⟩
    have fieldText := valid'.isFieldText
    rw [written', ← written] at fieldText
    exact method_not_field valid fieldText

/-- A header of arrows and a field with a name like the end of a method: each is read
as its words say, and the field is no method. -/
theorem line_read_by_words_arrows :
    let header := "->:(\t ->\u3000->:".toList
    let field := "int :f):1\u2003->  ->".toList
    IsStripped header ∧ headerLine? header = some ⟨"->:(".toList, "->".toList⟩ ∧
      (∃ form : HeaderForm, form.WellFormed ∧ form.text = header ∧ form.parts = ⟨"->:(".toList, "->".toList⟩) ∧
      IsStripped field ∧ fieldLine? field = some ⟨"int".toList, ":f):1".toList, "->".toList⟩ ∧
      fieldFirstEffect "C" 3 field = memberEffect "C" 3 field ∧
      ¬ ∃ form : Form, form.WellFormed ∧ form.text = field := by
  intro header field
  have header_stripped : IsStripped header := (by decide : strip header = header) ▸ strip_isStripped header
  have field_stripped : IsStripped field := (by decide : strip field = field) ▸ strip_isStripped field
  have headerText : IsHeaderText header "->:(".toList "->".toList := ⟨by decide, by decide, by decide⟩
  have fieldText : IsFieldText field "int".toList ":f):1".toList "->".toList := ⟨by decide, by decide, by decide⟩
  obtain ⟨headers, _, _⟩ := (line_read_by_words header).1 header_stripped
  obtain ⟨written_iff, read_iff⟩ := headers "->:(".toList "->".toList
  obtain ⟨reads, apart⟩ := line_read_by_words field
  obtain ⟨_, fields, order⟩ := reads field_stripped
  obtain ⟨written_iff', read_iff'⟩ := fields "int".toList ":f):1".toList "->".toList
  obtain ⟨form, valid, written, _⟩ := written_iff'.mpr fieldText
  refine ⟨header_stripped, read_iff.mpr headerText, written_iff.mpr headerText, field_stripped, read_iff'.mpr fieldText,
    order "C" 3, ?_⟩
  intro method
  exact apart ⟨method, form, valid, written⟩

end Deobfuscator.Proofs.LineWords
