import Deobfuscator.Proofs.TableMerge

/-! Queries without a line. They ask at line minus one, which no range of a table that
was read can hold, as its numbers are never negative. So they find the methods that
have no line information, and so does a query at any other negative line. -/

namespace Deobfuscator.Proofs.LinelessMethods
open Mapping NameIndex NameIndexContents TableReading TableMerge

/-- The range of a method does not reach below zero. -/
def HasNaturalRange : Entry → Prop
  | .method entry => 0 ≤ entry.first ∧ 0 ≤ entry.last
  | .header _ | .field _ => True

/-- An index that was read from lines or from a file. -/
inductive IsLoaded (index : NameIndex) : Prop where
  | lines (lines : List (List Char)) (loaded : (ofLines lines).result = .ok index)
  | file (files : FileSystem) (path : String) (loaded : (ofFile files path).result = .ok index)

/-- The names of the candidates for a method that have no line information. -/
def linelessNames (index : NameIndex) (owner obfuscated : String) : List String :=
  ((index.candidates owner obfuscated).filter fun found => found.last = 0).map (·.plain)

variable {owner : Option String} {line : Nat} {raw : List Char} {lines : List (List Char)} {index : NameIndex}

theorem lineEffect_hasNaturalRange {entry : Entry} (effect : lineEffect owner line raw = .event (.entry entry)) :
    HasNaturalRange entry := by
  cases lineEffect_iff_does.mp effect with
  | header => exact trivial
  | field => exact trivial
  | method => exact ⟨Int.natCast_nonneg _, Int.natCast_nonneg _⟩

theorem readFrom_hasNaturalRange : ∀ entry ∈ (readFrom owner line lines).entries, HasNaturalRange entry :=
  readFrom_entries (fun _ _ => True) trivial (fun _ _ _ _ _ => trivial)
    fun _ _ _ _ _ _ effect => lineEffect_hasNaturalRange effect

theorem IsLoaded.read (loaded : IsLoaded index) : ∃ lines, index = ofEntries (read lines).entries := by
  cases loaded with
  | lines lines loaded =>
    obtain ⟨_, rfl⟩ := ofLines_ok_iff.mp loaded
    exact ⟨lines, rfl⟩
  | file files path loaded =>
    -- What else could end the reading of a file would be a fault.
    rw [ofFile, ofReading_result, readPath_eq] at loaded
    split at loaded
    next => cases loaded
    next => exact ⟨linesOf (files.find path), (Except.ok.inj loaded).symm⟩

theorem IsLoaded.candidates_natural (loaded : IsLoaded index) (owner obfuscated : String) :
    ∀ found ∈ index.candidates owner obfuscated, 0 ≤ found.first ∧ 0 ≤ found.last := by
  obtain ⟨lines, rfl⟩ := loaded.read
  rw [candidates_reflects (ofEntries_reflects _)]
  intro found member
  obtain ⟨method, kept, rfl⟩ := List.mem_map.mp member
  obtain ⟨entry, inside, same⟩ := List.mem_filterMap.mp (List.mem_filter.mp kept).1
  have natural := readFrom_hasNaturalRange entry inside
  cases entry with
  | header header => cases same
  | field field => cases same
  | method method =>
    cases same
    exact natural

theorem covers_negative {found : Candidate} (natural : 0 ≤ found.first) {line : Int} (negative : line < 0) :
    found.covers line = decide (found.last = 0) := by
  have outside : ¬ found.first ≤ line := by omega
  rw [Bool.eq_iff_iff, decide_eq_true_iff]
  simp [Candidate.covers, outside]

theorem IsLoaded.find_negative (loaded : IsLoaded index) (className method : String) (line : Option Int)
    (negative : line.getD noLine < 0) :
    index.find ⟨className, some method, line⟩ = ⟨index.plainClass className,
      let names := linelessNames index (index.plainClass className) method
      if names = [] then [method] else names⟩ := by
  generalize named : index.plainClass className = owner
  have covered : (index.candidates owner method).filter (·.covers (line.getD noLine)) =
      (index.candidates owner method).filter fun found => found.last = 0 := by
    apply List.filter_congr
    intro found member
    exact covers_negative (loaded.candidates_natural owner method found member).1 negative
  rw [find, named]
  dsimp only [Target.lineNumber]
  rw [plainMethods, covered, linelessNames]
  split
  next none => rw [none]; rfl
  next some => rw [if_neg (by simpa using some)]

/-- No range in an index that was read from lines or from a file reaches below zero. So
a query without a line, at line minus one or at any negative line finds the same: the
methods without line information, in table order, or the name that was asked for. -/
theorem find_without_line (loaded : IsLoaded index) :
    (∀ owner obfuscated, ∀ found ∈ index.candidates owner obfuscated, 0 ≤ found.first ∧ 0 ≤ found.last) ∧
    ∀ className method line, line < 0 →
      index.find ⟨className, some method, none⟩ = index.find ⟨className, some method, some noLine⟩ ∧
      index.find ⟨className, some method, none⟩ = index.find ⟨className, some method, some line⟩ ∧
      index.find ⟨className, some method, none⟩ = ⟨index.plainClass className,
        let names := linelessNames index (index.plainClass className) method
        if names = [] then [method] else names⟩ := by
  refine ⟨loaded.candidates_natural, ?_⟩
  intro className method line negative
  have unnamed := loaded.find_negative className method none (by decide)
  have minusOne := loaded.find_negative className method (some noLine) (by decide)
  have other := loaded.find_negative className method (some line) negative
  exact ⟨unnamed.trans minusOne.symm, unnamed.trans other.symm, unnamed⟩

/-- Ranges that start at zero, end at zero or are not written, and a method that has
lines only. -/
theorem find_without_line_zero :
    let lines := ["a.B -> c:", "  0:5:void x() -> m", "  void y() -> m", "  7:0:void z() -> m",
      "  void w():3 -> n"].map (·.toList)
    ∃ index, (ofLines lines).result = .ok index ∧ IsLoaded index ∧ (-7 : Int) < 0 ∧
      index.candidates "a.B" "m" = [⟨0, 5, "x"⟩, ⟨0, 0, "y"⟩, ⟨7, 0, "z"⟩] ∧
      index.find ⟨"c", some "m", none⟩ = ⟨"a.B", ["y", "z"]⟩ ∧
      index.find ⟨"c", some "m", some (-7)⟩ = ⟨"a.B", ["y", "z"]⟩ ∧
      index.find ⟨"c", some "n", none⟩ = ⟨"a.B", ["n"]⟩ := by
  intro lines
  let index := ofEntries (read lines).entries
  have given : (ofLines lines).result = .ok index := ofLines_ok_iff.mpr ⟨by decide, rfl⟩
  have loaded : IsLoaded index := .lines lines given
  have reflects : Reflects index (read lines).entries := ofEntries_reflects _
  obtain ⟨_, finds⟩ := find_without_line loaded
  obtain ⟨_, same, found⟩ := finds "c" "m" (-7) (by decide)
  obtain ⟨_, _, found'⟩ := finds "c" "n" (-7) (by decide)
  have candidates : index.candidates "a.B" "m" = [⟨0, 5, "x"⟩, ⟨0, 0, "y"⟩, ⟨7, 0, "z"⟩] := by
    rw [candidates_reflects reflects]
    decide
  have several : index.find ⟨"c", some "m", none⟩ = ⟨"a.B", ["y", "z"]⟩ := by
    rw [found, linelessNames, plainClass_reflects reflects, candidates_reflects reflects]
    decide
  have single : index.find ⟨"c", some "n", none⟩ = ⟨"a.B", ["n"]⟩ := by
    rw [found', linelessNames, plainClass_reflects reflects, candidates_reflects reflects]
    decide
  exact ⟨index, given, loaded, by decide, candidates, several, same.symm.trans several, single⟩

end Deobfuscator.Proofs.LinelessMethods
