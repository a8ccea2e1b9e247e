import Deobfuscator.Text.Blank
import Deobfuscator.Text.Pieces
import Mathlib.Data.List.DropRight

/-! How a text falls apart: at the first character without a property, at every
separator, and at the blanks. Each way of cutting is characterised by the parts
alone, so that reading and writing can be told from the same facts. -/

namespace Deobfuscator.Proofs.TextCuts
open Text

def AllBlank (text : List Char) : Prop := ∀ c ∈ text, isBlank c = true

def BlankFree (text : List Char) : Prop := ∀ c ∈ text, isBlank c = false

instance (text : List Char) : Decidable (AllBlank text) := List.decidableBAll _ text

instance (text : List Char) : Decidable (BlankFree text) := List.decidableBAll _ text

theorem BlankFree.append {front back : List Char} (free : BlankFree front) (free' : BlankFree back) :
    BlankFree (front ++ back) := by
  intro c inside
  rcases List.mem_append.mp inside with inside | inside
  · exact free c inside
  · exact free' c inside

/-- Blanks that keep two words apart. -/
structure IsGap (text : List Char) : Prop where
  some : text ≠ []
  blank : AllBlank text

structure IsWord (text : List Char) : Prop where
  some : text ≠ []
  free : BlankFree text

instance (text : List Char) : Decidable (IsGap text) :=
  decidable_of_iff (text ≠ [] ∧ AllBlank text) ⟨fun valid => ⟨valid.1, valid.2⟩, fun valid => ⟨valid.some, valid.blank⟩⟩

instance (text : List Char) : Decidable (IsWord text) :=
  decidable_of_iff (text ≠ [] ∧ BlankFree text) ⟨fun valid => ⟨valid.1, valid.2⟩, fun valid => ⟨valid.some, valid.free⟩⟩

theorem IsGap.start {gap : List Char} (valid : IsGap gap) (rest : List Char) :
    ∀ c ∈ (gap ++ rest).head?, isBlank c = true := by
  obtain ⟨c, more, rfl⟩ := List.exists_cons_of_ne_nil valid.some
  intro found first
  cases first
  exact valid.blank c List.mem_cons_self

theorem IsWord.start {word : List Char} (valid : IsWord word) (rest : List Char) :
    ∀ c ∈ (word ++ rest).head?, isBlank c = false := by
  obtain ⟨c, more, rfl⟩ := List.exists_cons_of_ne_nil valid.some
  intro found first
  cases first
  exact valid.free c List.mem_cons_self

/-- Blanks in front of a word keep it apart from what ends where a blank starts. -/
theorem IsGap.of_start {gap word rest : List Char} (blank : AllBlank gap) (valid : IsWord word)
    (start : ∀ c ∈ (gap ++ (word ++ rest)).head?, isBlank c = true) : IsGap gap := by
  refine ⟨?_, blank⟩
  rintro rfl
  obtain ⟨c, more, rfl⟩ := List.exists_cons_of_ne_nil valid.some
  have free := valid.free c List.mem_cons_self
  rw [start c rfl] at free
  cases free

theorem cut_parts (p : Char → Bool) (text : List Char) :
    text.takeWhile p ++ text.dropWhile p = text ∧ (∀ c ∈ text.takeWhile p, p c = true) ∧
      ∀ c ∈ (text.dropWhile p).head?, p c = false := by
  refine ⟨List.takeWhile_append_dropWhile, ?_, ?_⟩
  · exact List.all_eq_true.mp List.all_takeWhile
  · intro c first
    have stop := List.head?_dropWhile_not p text
    rw [Option.mem_def.mp first] at stop
    exact stop

theorem cut_append {p : Char → Bool} {front : List Char} (inside : ∀ c ∈ front, p c = true) (back : List Char)
    (boundary : ∀ c ∈ back.head?, p c = false) :
    (front ++ back).takeWhile p = front ∧ (front ++ back).dropWhile p = back := by
  rw [List.takeWhile_append_of_pos inside, List.dropWhile_append_of_pos inside]
  cases back with
  | nil => simp
  | cons c rest => simp [boundary c rfl]

theorem word_parts (text : List Char) :
    text.takeWhile (!isBlank ·) ++ text.dropWhile (!isBlank ·) = text ∧ BlankFree (text.takeWhile (!isBlank ·)) ∧
      ∀ c ∈ (text.dropWhile (!isBlank ·)).head?, isBlank c = true := by
  obtain ⟨whole, free, boundary⟩ := cut_parts (!isBlank ·) text
  simp only [Bool.not_eq_true', Bool.not_eq_false'] at free boundary
  exact ⟨whole, free, boundary⟩

theorem word_append {word : List Char} (free : BlankFree word) (rest : List Char)
    (boundary : ∀ c ∈ rest.head?, isBlank c = true) :
    (word ++ rest).takeWhile (!isBlank ·) = word ∧ (word ++ rest).dropWhile (!isBlank ·) = rest := by
  refine cut_append ?_ rest ?_
  · exact fun c inside => by rw [free c inside]; rfl
  · exact fun c first => by rw [boundary c first]; rfl

/-- The two parts of a text are determined by where the property ends. -/
theorem cut_unique {p : Char → Bool} {front back front' back' : List Char} (same : front ++ back = front' ++ back')
    (inside : ∀ c ∈ front, p c = true) (boundary : ∀ c ∈ back.head?, p c = false)
    (inside' : ∀ c ∈ front', p c = true) (boundary' : ∀ c ∈ back'.head?, p c = false) :
    front = front' ∧ back = back' := by
  obtain ⟨taken, dropped⟩ := cut_append inside back boundary
  obtain ⟨taken', dropped'⟩ := cut_append inside' back' boundary'
  rw [same] at taken dropped
  exact ⟨taken.symm.trans taken', dropped.symm.trans dropped'⟩

theorem word_unique {word rest word' rest' : List Char} (same : word ++ rest = word' ++ rest')
    (free : BlankFree word) (boundary : ∀ c ∈ rest.head?, isBlank c = true)
    (free' : BlankFree word') (boundary' : ∀ c ∈ rest'.head?, isBlank c = true) : word = word' ∧ rest = rest' := by
  obtain ⟨taken, dropped⟩ := word_append free rest boundary
  obtain ⟨taken', dropped'⟩ := word_append free' rest' boundary'
  rw [same] at taken dropped
  exact ⟨taken.symm.trans taken', dropped.symm.trans dropped'⟩

theorem pieces_eq_splitOn (separator : Char) (text : List Char) : pieces separator text = text.splitOn separator := by
  induction text with
  | nil => rfl
  | cons c rest ih => rw [pieces, ih, List.splitOn_cons_eq_if_modifyHead]

theorem joined_pieces (separator : Char) (text : List Char) : joined separator (pieces separator text) = text := by
  rw [pieces_eq_splitOn, joined, List.intercalate_splitOn]

theorem mem_of_mem_pieces {separator c : Char} {text piece : List Char} (member : piece ∈ pieces separator text)
    (inside : c ∈ piece) : c ∈ text ∧ c ≠ separator := by
  induction text generalizing piece with
  | nil => simp_all [pieces]
  | cons first rest ih =>
    rw [pieces] at member
    split at member
    next =>
      rcases List.mem_cons.mp member with rfl | later
      · cases inside
      · exact (ih later inside).imp_left (List.mem_cons_of_mem first)
    next other =>
      obtain ⟨start, more, split⟩ := List.exists_cons_of_ne_nil (pieces_ne_nil separator rest)
      rw [split] at member ih
      rcases List.mem_cons.mp member with rfl | later
      · rcases List.mem_cons.mp inside with rfl | further
        · exact ⟨List.mem_cons_self, fun same => other (beq_iff_eq.mpr same)⟩
        · exact (ih List.mem_cons_self further).imp_left (List.mem_cons_of_mem first)
      · exact (ih (List.mem_cons_of_mem _ later) inside).imp_left (List.mem_cons_of_mem first)

theorem not_mem_of_mem_pieces {separator : Char} {text piece : List Char} (member : piece ∈ pieces separator text) :
    separator ∉ piece :=
  fun inside => (mem_of_mem_pieces member inside).2 rfl

/-- The pieces of a text are the texts without separators that it joins. -/
theorem pieces_eq_iff {separator : Char} {text : List Char} {texts : List (List Char)} :
    pieces separator text = texts ↔
      texts ≠ [] ∧ (∀ piece ∈ texts, separator ∉ piece) ∧ joined separator texts = text := by
  constructor
  · rintro rfl
    exact ⟨pieces_ne_nil separator text, fun _ member => not_mem_of_mem_pieces member, joined_pieces separator text⟩
  · rintro ⟨some, free, rfl⟩
    rw [pieces_eq_splitOn, joined, List.splitOn_intercalate separator free some]

theorem pieces_eq_singleton {separator : Char} {text : List Char} (free : separator ∉ text) :
    pieces separator text = [text] :=
  pieces_eq_iff.mpr ⟨List.cons_ne_nil _ _, by simpa using free, by simp [joined]⟩

theorem mem_joined {separator c : Char} {texts : List (List Char)} (inside : c ∈ joined separator texts) :
    c = separator ∨ ∃ text ∈ texts, c ∈ text := by
  induction texts with
  | nil => cases inside
  | cons first rest ih =>
    cases rest with
    | nil => exact .inr ⟨first, List.mem_cons_self, by simpa [joined] using inside⟩
    | cons next rest =>
      rw [joined, List.intercalate_cons_cons, List.mem_append, List.mem_append, List.mem_singleton] at inside
      rcases inside with (inside | rfl) | inside
      · exact .inr ⟨first, List.mem_cons_self, inside⟩
      · exact .inl rfl
      · refine (ih inside).imp id ?_
        rintro ⟨text, member, inside⟩
        exact ⟨text, List.mem_cons_of_mem _ member, inside⟩

theorem joined_eq_nil_iff {separator : Char} {texts : List (List Char)} (some : ∀ text ∈ texts, text ≠ []) :
    joined separator texts = [] ↔ texts = [] := by
  rw [joined]
  cases texts with
  | nil => simp
  | cons first rest =>
    have first_some := some first List.mem_cons_self
    cases rest with
    | nil => simp [first_some]
    | cons next rest => simp [List.intercalate_cons_cons, first_some]

theorem words_eq_nil_iff {text : List Char} : words text = [] ↔ AllBlank text := by
  induction text with
  | nil => simp [words, AllBlank]
  | cons c rest ih =>
    by_cases blank : isBlank c = true
    · rw [words_cons_blank blank, ih]
      simp [AllBlank, blank]
    · have word : words (c :: rest) ≠ [] := by
        rw [words, if_neg blank]
        split
        next => exact List.cons_ne_nil _ _
        next more =>
          intro none
          rw [List.modifyHead_eq_nil_iff, ih] at none
          cases rest with
          | nil => simp at more
          | cons next rest => simp [none next List.mem_cons_self] at more
      exact ⟨fun none => absurd none word, fun all => absurd (all c List.mem_cons_self) blank⟩

theorem words_gap_append {gap : List Char} (blank : AllBlank gap) (text : List Char) :
    words (gap ++ text) = words text := by
  induction gap with
  | nil => rfl
  | cons c gap ih =>
    rw [List.cons_append, words_cons_blank (blank c List.mem_cons_self)]
    exact ih fun other member => blank other (List.mem_cons_of_mem c member)

/-- A word ends where the text ends or a blank follows. -/
theorem words_word_append {word after : List Char} (valid : IsWord word)
    (boundary : ∀ c ∈ after.head?, isBlank c = true) : words (word ++ after) = word :: words after := by
  obtain ⟨some, free⟩ := valid
  induction word with
  | nil => exact absurd rfl some
  | cons c word ih =>
    have first : ¬ isBlank c = true := by simp [free c List.mem_cons_self]
    rw [List.cons_append, words, if_neg first]
    cases word with
    | nil =>
      have last : after.head?.all isBlank = true := by simpa [Option.all_eq_true] using boundary
      rw [List.nil_append, if_pos last]
    | cons next word =>
      have rest : BlankFree (next :: word) := fun other member => free other (List.mem_cons_of_mem c member)
      have more : ¬ ((next :: word ++ after).head?.all isBlank) = true := by
        simp [rest next List.mem_cons_self]
      rw [if_neg more, ih (List.cons_ne_nil _ _) rest, List.modifyHead_cons]

/-- The first word of a text, between the blanks in front of it and the rest. -/
theorem words_eq_cons_iff {text word : List Char} {rest : List (List Char)} :
    words text = word :: rest ↔ ∃ gap after, gap ++ (word ++ after) = text ∧ AllBlank gap ∧ IsWord word ∧
      (∀ c ∈ after.head?, isBlank c = true) ∧ words after = rest := by
  constructor
  · intro found
    obtain ⟨whole, blank, start⟩ := cut_parts isBlank text
    generalize text.takeWhile isBlank = gap at whole blank
    generalize text.dropWhile isBlank = tail at whole start
    obtain ⟨parts, free, boundary⟩ := word_parts tail
    generalize tail.takeWhile (!isBlank ·) = first at parts free
    generalize tail.dropWhile (!isBlank ·) = after at parts boundary
    subst whole parts
    rw [words_gap_append blank] at found
    have some : first ≠ [] := by
      rintro rfl
      -- What is left then starts neither with a blank nor without one.
      cases after with
      | nil => cases found
      | cons c after => exact absurd (boundary c rfl) (by simp [start c rfl])
    rw [words_word_append ⟨some, free⟩ boundary] at found
    obtain ⟨rfl, rfl⟩ := List.cons.inj found
    exact ⟨gap, after, rfl, blank, ⟨some, free⟩, boundary, rfl⟩
  · rintro ⟨gap, after, rfl, blank, valid, boundary, rfl⟩
    rw [words_gap_append blank, words_word_append valid boundary]

theorem isWord_of_mem_words {text word : List Char} (member : word ∈ words text) : IsWord word := by
  generalize split : words text = found at member
  induction found generalizing text with
  | nil => cases member
  | cons first rest ih =>
    obtain ⟨gap, after, _, _, valid, _, left⟩ := words_eq_cons_iff.mp split
    rcases List.mem_cons.mp member with rfl | later
    · exact valid
    · exact ih left later

theorem words_pair {before first between last : List Char} (blank : AllBlank before) (valid : IsWord first)
    (gap : IsGap between) (valid' : IsWord last) : words (before ++ (first ++ (between ++ last))) = [first, last] := by
  have single : words (last ++ []) = last :: words [] := words_word_append valid' (by simp)
  rw [List.append_nil] at single
  rw [words_gap_append blank, words_word_append valid (gap.start last), words_gap_append gap.blank, single]
  rfl

/-- A text without a blank at its end is over after its last word. -/
theorem pair_of_words {text first last : List Char} (ended : ∀ c ∈ text.getLast?, isBlank c = false)
    (found : words text = [first, last]) :
    ∃ before between, before ++ (first ++ (between ++ last)) = text ∧ AllBlank before ∧ IsWord first ∧ IsGap between ∧
      IsWord last := by
  obtain ⟨before, after, rfl, blank, valid, boundary, found⟩ := words_eq_cons_iff.mp found
  obtain ⟨between, left, rfl, blank', valid', boundary', found⟩ := words_eq_cons_iff.mp found
  rw [words_eq_nil_iff] at found
  have nothing : left = [] := by
    rcases List.eq_nil_or_concat left with none | ⟨front, c, rfl⟩
    · exact none
    · have blank := found c (by simp)
      have free := ended c (by simp)
      rw [blank] at free
      cases free
  subst nothing
  exact ⟨before, between, by rw [List.append_nil], blank, valid, .of_start blank' valid' boundary, valid'⟩

theorem ended_of_append {front back : List Char} (ended : ∀ c ∈ (front ++ back).getLast?, isBlank c = false) :
    ∀ c ∈ back.getLast?, isBlank c = false := by
  intro c last
  apply ended c
  rw [List.getLast?_append, Option.mem_def.mp last]
  rfl

/-- A stripped text starts and ends with a word, if it holds any. -/
structure IsStripped (text : List Char) : Prop where
  start : ∀ c ∈ text.head?, isBlank c = false
  last : ∀ c ∈ text.getLast?, isBlank c = false

theorem strip_isStripped (text : List Char) : IsStripped (strip text) := by
  obtain ⟨_, _, start⟩ := cut_parts isBlank text
  generalize begun : text.dropWhile isBlank = tail at start
  have trimmed : strip text = tail.rdropWhile isBlank := by rw [strip, begun]; rfl
  refine ⟨?_, ?_⟩
  · intro c first
    obtain ⟨rest, whole⟩ := List.rdropWhile_prefix isBlank (l := tail)
    rw [← trimmed] at whole
    apply start c
    rw [← whole, List.head?_append, Option.mem_def.mp first]
    rfl
  · obtain ⟨_, _, stop⟩ := cut_parts isBlank tail.reverse
    intro c last
    apply stop c
    rw [trimmed, List.rdropWhile, List.getLast?_reverse] at last
    exact last

theorem IsStripped.strip_eq {text : List Char} (stripped : IsStripped text) : strip text = text := by
  have start : text.dropWhile isBlank = text := by
    cases text with
    | nil => rfl
    | cons c rest => simp [stripped.start c rfl]
  have last : text.reverse.dropWhile isBlank = text.reverse := by
    cases reversed : text.reverse with
    | nil => rfl
    | cons c rest => simp [stripped.last c (by rw [← List.head?_reverse, reversed]; rfl)]
  rw [strip, start, trimEnd, last, List.reverse_reverse]

theorem trimEnd_append {more : List Char} (blank : AllBlank more) (text : List Char) :
    trimEnd isBlank (text ++ more) = trimEnd isBlank text := by
  have blank' : ∀ c ∈ more.reverse, isBlank c = true := fun c inside => blank c (List.mem_reverse.mp inside)
  rw [trimEnd, trimEnd, List.reverse_append, List.dropWhile_append_of_pos blank']

theorem strip_append {more : List Char} (blank : AllBlank more) (text : List Char) : strip (text ++ more) = strip text := by
  rw [strip, strip, List.dropWhile_append]
  split
  next none =>
    rw [List.isEmpty_iff.mp none, List.dropWhile_eq_nil_iff.mpr blank]
  next => exact trimEnd_append blank _

theorem strip_gap {gap : List Char} (valid : IsGap gap) (rest : List Char) : strip (gap ++ rest) = strip rest := by
  rw [strip, List.dropWhile_append_of_pos valid.blank, strip]

end Deobfuscator.Proofs.TextCuts
