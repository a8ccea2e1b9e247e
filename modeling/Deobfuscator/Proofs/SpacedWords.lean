import Deobfuscator.Proofs.TextCuts

/-! Texts as words that blanks keep apart. Cutting such a text gives its words back,
whatever the blanks are, and a stripped text with a word in it is one. -/

namespace Deobfuscator.Proofs.SpacedWords
open Text TextCuts

/-- Words in order, with a gap between each and the next. -/
inductive Spaced : List (List Char) → List Char → Prop where
  | word {word : List Char} (valid : IsWord word) : Spaced [word] word
  | next {word gap text : List Char} {found : List (List Char)} (valid : IsWord word) (apart : IsGap gap)
      (more : Spaced found text) : Spaced (word :: found) (word ++ (gap ++ text))

variable {text : List Char} {found : List (List Char)}

theorem Spaced.words_append (spaced : Spaced found text) {after : List Char} (blank : AllBlank after) :
    words (text ++ after) = found := by
  induction spaced with
  | word valid =>
    have boundary : ∀ c ∈ after.head?, isBlank c = true := fun c first => blank c (List.mem_of_mem_head? first)
    rw [words_word_append valid boundary, words_eq_nil_iff.mpr blank]
  | next valid apart more ih =>
    rw [List.append_assoc, List.append_assoc, words_word_append valid (apart.start _), words_gap_append apart.blank, ih]

theorem Spaced.words_eq (spaced : Spaced found text) : words text = found := by
  have nothing : AllBlank [] := fun c inside => absurd inside List.not_mem_nil
  have ended := spaced.words_append nothing
  rwa [List.append_nil] at ended

/-- A text is made of words, with blanks between them and maybe around them. -/
structure IsMadeOf (text : List Char) (found : List (List Char)) : Prop where
  parts : ∃ before inner after, before ++ (inner ++ after) = text ∧
    AllBlank before ∧ Spaced found inner ∧ AllBlank after

/-- Only the words of such a text count. -/
theorem IsMadeOf.words_eq (made : IsMadeOf text found) : words text = found := by
  obtain ⟨before, inner, after, rfl, blank, spaced, blank'⟩ := made.parts
  rw [words_gap_append blank, spaced.words_append blank']

theorem nil_of_start {gap rest : List Char} (blank : AllBlank gap)
    (start : ∀ c ∈ (gap ++ rest).head?, isBlank c = false) : gap = [] := by
  cases gap with
  | nil => rfl
  | cons c gap => exact absurd (blank c List.mem_cons_self) (by simp [start c rfl])

theorem nil_of_last (blank : AllBlank text) (last : ∀ c ∈ text.getLast?, isBlank c = false) : text = [] := by
  cases ending : text.getLast? with
  | none => exact List.getLast?_eq_none_iff.mp ending
  | some c => exact absurd (blank c (List.mem_of_getLast? ending)) (by simp [last c ending])

/-- A stripped text begins and ends with the words that cutting it gives. -/
theorem spaced_of_words {first : List Char} {rest : List (List Char)} (stripped : IsStripped text)
    (split : words text = first :: rest) : Spaced (first :: rest) text := by
  -- On the words after the first: blanks in front of it would start the text, and blanks
  -- behind the last would end it.
  induction rest generalizing first text with
  | nil =>
    obtain ⟨gap, after, rfl, blank, valid, _, left⟩ := words_eq_cons_iff.mp split
    obtain rfl := nil_of_start blank stripped.start
    obtain rfl := nil_of_last (words_eq_nil_iff.mp left) (ended_of_append (ended_of_append stripped.last))
    rw [List.nil_append, List.append_nil]
    exact .word valid
  | cons second rest ih =>
    obtain ⟨gap, after, rfl, blank, valid, boundary, left⟩ := words_eq_cons_iff.mp split
    obtain rfl := nil_of_start blank stripped.start
    obtain ⟨apart, after, rfl, blank', valid', boundary', left'⟩ := words_eq_cons_iff.mp left
    have stripped' : IsStripped (second ++ after) :=
      ⟨valid'.start after, ended_of_append (ended_of_append (ended_of_append stripped.last))⟩
    have split' : words (second ++ after) = second :: rest := by rw [words_word_append valid' boundary', left']
    exact .next valid (.of_start blank' valid' boundary) (ih stripped' split')

theorem spaced_singleton_iff {word : List Char} : Spaced [word] text ↔ IsWord word ∧ word = text := by
  constructor
  · intro spaced
    cases spaced with
    | word valid => exact ⟨valid, rfl⟩
    | next valid apart more => cases more
  · rintro ⟨valid, rfl⟩
    exact .word valid

theorem spaced_cons_iff {first second : List Char} {rest : List (List Char)} :
    Spaced (first :: second :: rest) text ↔
      IsWord first ∧ ∃ gap more, IsGap gap ∧ Spaced (second :: rest) more ∧ first ++ (gap ++ more) = text := by
  constructor
  · intro spaced
    cases spaced with
    | next valid apart more => exact ⟨valid, _, _, apart, more, rfl⟩
  · rintro ⟨valid, gap, more, apart, spaced, rfl⟩
    exact .next valid apart spaced

end Deobfuscator.Proofs.SpacedWords
