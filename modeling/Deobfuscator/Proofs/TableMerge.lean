import Deobfuscator.NameIndex.Source
import Deobfuscator.Proofs.NameIndexContents
import Deobfuscator.Proofs.TableSegments

/-! Tables one after another. The index of both together is the merge of theirs: a
class goes by the name in the second, if that has one, and a method has the
candidates of both, those of the first in front. -/

namespace Deobfuscator.Proofs.TableMerge
open Mapping NameIndex NameIndexContents TableSegments

structure IsMerge (first second merged : NameIndex) : Prop where
  classes : merged.classes = first.classes ∪ second.classes
  candidates : ∀ owner obfuscated,
    merged.candidates owner obfuscated = first.candidates owner obfuscated ++ second.candidates owner obfuscated

theorem lastHeader?_append (front back : List Entry) (obfuscated : String) :
    lastHeader? (front ++ back) obfuscated = (lastHeader? back obfuscated).or (lastHeader? front obfuscated) := by
  rw [lastHeader?, classEntries_append, List.filter_append, List.getLast?_append]
  rfl

theorem ofEntries_append (front back : List Entry) :
    IsMerge (ofEntries front) (ofEntries back) (ofEntries (front ++ back)) := by
  have first := ofEntries_reflects front
  have second := ofEntries_reflects back
  have both := ofEntries_reflects (front ++ back)
  refine ⟨?_, ?_⟩
  · refine Std.ExtTreeMap.ext_getElem? fun {obfuscated} => ?_
    rw [Std.ExtTreeMap.getElem?_union, both.classes, first.classes, second.classes, lastHeader?_append, Option.map_or]
  · intro owner obfuscated
    rw [candidates_reflects both, candidates_reflects first, candidates_reflects second, candidatesOf_append]

/-- An index does not keep where its entries stood. -/
theorem add_move (index : NameIndex) (offset : Nat) (entry : Entry) :
    index.add (moveEntry offset entry) = index.add entry := by
  cases entry <;> rfl

theorem foldl_move (index : NameIndex) (offset : Nat) (entries : List Entry) :
    (entries.map (moveEntry offset)).foldl NameIndex.add index = entries.foldl NameIndex.add index := by
  have same : (fun index entry => NameIndex.add index (moveEntry offset entry)) = NameIndex.add := by
    funext index entry
    exact add_move index offset entry
  rw [List.foldl_map, same]

theorem ofEntries_move (offset : Nat) (entries : List Entry) :
    ofEntries (entries.map (moveEntry offset)) = ofEntries entries :=
  foldl_move empty offset entries

variable {lines front back : List (List Char)} {index : NameIndex}

theorem ofLines_ok_iff :
    (ofLines lines).result = .ok index ↔ (read lines).fault = none ∧ ofEntries (read lines).entries = index := by
  rw [ofLines, ofReading_result]
  cases (read lines).fault <;> simp

theorem loads_iff : (∃ index, (ofLines lines).result = .ok index) ↔ (read lines).fault = none := by
  simp [ofLines_ok_iff]

theorem fails_iff : (∃ fault, (ofLines lines).result = .error fault) ↔ (read lines).fault ≠ none := by
  rw [ofLines, ofReading_result]
  cases (read lines).fault <;> simp

/-- Two tables can be read together if both can be read. -/
theorem fault_append_iff (joins : StartsOutdented back ∨ ∀ raw ∈ front, ¬ IsHeader raw) :
    (read (front ++ back)).fault = none ↔ (read front).fault = none ∧ (read back).fault = none := by
  cases stopped : (read front).fault with
  | none =>
    rw [read_append joins stopped]
    simp [followedBy, moveReading]
  | some fault =>
    rw [Mapping.read, readFrom_append_stopped stopped]
    change (read front).fault = none ↔ _
    simp [stopped]

theorem ofEntries_read_append (joins : StartsOutdented back ∨ ∀ raw ∈ front, ¬ IsHeader raw)
    (readable : (read front).fault = none) :
    IsMerge (ofEntries (read front).entries) (ofEntries (read back).entries)
      (ofEntries (read (front ++ back)).entries) := by
  have merged := ofEntries_append (read front).entries ((read back).entries.map (moveEntry front.length))
  rw [read_append joins readable, entries_followedBy, entries_move]
  rwa [ofEntries_move] at merged

/-- Lines after others load with them if and only if both load, provided that they
start with no member, or that there is no header before them. The index is then the
merge of both. Whenever the first can be read, the reading gives its entries, then
those of the second with their new lines, and ends as the second does. -/
theorem ofLines_append (front back : List (List Char))
    (joins : StartsOutdented back ∨ ∀ raw ∈ front, ¬ IsHeader raw) :
    ((∃ merged, (ofLines (front ++ back)).result = .ok merged) ↔
      (∃ first, (ofLines front).result = .ok first) ∧ ∃ second, (ofLines back).result = .ok second) ∧
    (∀ first second merged, (ofLines front).result = .ok first → (ofLines back).result = .ok second →
      (ofLines (front ++ back)).result = .ok merged → IsMerge first second merged) ∧
    ((read front).fault = none →
      (read (front ++ back)).entries = (read front).entries ++ (read back).entries.map (moveEntry front.length) ∧
      (read (front ++ back)).fault = (read back).fault.map (moveFault front.length) ∧
      (read (front ++ back)).fault.map (·.kind) = (read back).fault.map (·.kind)) := by
  refine ⟨?_, ?_, ?_⟩
  · simp only [loads_iff]
    exact fault_append_iff joins
  · intro first second merged loaded loaded' loaded''
    obtain ⟨readable, rfl⟩ := ofLines_ok_iff.mp loaded
    obtain ⟨_, rfl⟩ := ofLines_ok_iff.mp loaded'
    obtain ⟨_, rfl⟩ := ofLines_ok_iff.mp loaded''
    exact ofEntries_read_append joins readable
  · intro readable
    have reading := read_append joins readable
    have fault : (read (front ++ back)).fault = (read back).fault.map (moveFault front.length) := by
      rw [reading]
      rfl
    refine ⟨?_, fault, ?_⟩
    · rw [reading, entries_followedBy, entries_move]
    · have kinds : (Fault.kind ∘ moveFault front.length) = Fault.kind := funext (moveFault_kind front.length)
      rw [fault, Option.map_map]
      exact congrArg (fun kind => (read back).fault.map kind) kinds

/-- A second table that gives the name of a class to another, the class a new name
and its method a second candidate. -/
theorem ofLines_append_renamed :
    let front := ["a.B -> c:", "  void m() -> d"].map (·.toList)
    let back := ["# later", "z.Z -> c:", "a.B -> e:", "  1:2:void n() -> d"].map (·.toList)
    StartsOutdented back ∧ ∃ first second merged,
      (ofLines front).result = .ok first ∧ (ofLines back).result = .ok second ∧
        (ofLines (front ++ back)).result = .ok merged ∧ IsMerge first second merged ∧
        merged.plainClass "c" = "z.Z" ∧ merged.candidates "a.B" "d" = [⟨0, 0, "m"⟩, ⟨1, 2, "n"⟩] ∧
        (read front).fault = none ∧ (read (front ++ back)).entries = (read front).entries ++ [
          .header ⟨"z.Z", "c", 4⟩, .header ⟨"a.B", "e", 5⟩, .method ⟨"a.B", "void", "n", "", "d", 1, 2, 6⟩] := by
  intro front back
  have starts : StartsOutdented back := by
    rintro raw ⟨⟩
    decide
  have readable : (read front).fault = none := by decide
  have loaded : (ofLines front).result = .ok _ := ofLines_ok_iff.mpr ⟨readable, rfl⟩
  have loaded' : (ofLines back).result = .ok _ := ofLines_ok_iff.mpr ⟨by decide, rfl⟩
  have loaded'' : (ofLines (front ++ back)).result = .ok _ := ofLines_ok_iff.mpr ⟨by decide, rfl⟩
  obtain ⟨_, merges, reads⟩ := ofLines_append front back (.inl starts)
  refine ⟨starts, _, _, _, loaded, loaded', loaded'', merges _ _ _ loaded loaded' loaded'', ?_, ?_, readable, ?_⟩
  · rw [plainClass_reflects (ofEntries_reflects _)]
    decide
  · rw [candidates_reflects (ofEntries_reflects _)]
    decide
  · rw [(reads readable).1]
    decide

end Deobfuscator.Proofs.TableMerge
