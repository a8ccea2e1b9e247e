import Deobfuscator.Proofs.NameIndexContents
import Deobfuscator.Proofs.OwnerListing
import Mathlib.Algebra.BigOperators.Group.Finset.Basic

/-! The counts of an index of entries: a class for each name that a header gives, a
method for each class and name that a method stands under, and a candidate for each
method, repeated or not. -/

namespace Deobfuscator.Proofs.EntryCounts
open Mapping NameIndex NameIndexContents OwnerListing

/-- The names that headers give to classes. -/
def classNames (entries : List Entry) : List String := (classEntries entries).map (·.obfuscated)

/-- The classes and names that methods stand under. -/
def methodKeys (entries : List Entry) : List MethodKey :=
  (methodEntries entries).map fun method => (method.owner, method.obfuscated)

def withoutFields (entries : List Entry) : List Entry :=
  entries.filter fun | .field _ => false | .header _ | .method _ => true

section
variable {α β : Type} [DecidableEq α] {order : α → α → Ordering} [Std.TransCmp order] [Std.LawfulEqCmp order]
  {map : Std.ExtTreeMap α β order} {names : List α}

theorem keys_toFinset (same : ∀ name, name ∈ map ↔ name ∈ names) : map.keys.toFinset = names.toFinset := by
  ext name
  rw [List.mem_toFinset, List.mem_toFinset, Std.ExtTreeMap.mem_keys, same]

theorem size_eq_card (same : ∀ name, name ∈ map ↔ name ∈ names) : map.size = names.toFinset.card := by
  rw [← keys_toFinset same, List.toFinset_card_of_nodup Std.ExtTreeMap.nodup_keys, Std.ExtTreeMap.length_keys]

end

variable {index : NameIndex} {entries : List Entry}

theorem mem_classes (reflects : Reflects index entries) (obfuscated : String) :
    obfuscated ∈ index.classes ↔ obfuscated ∈ classNames entries := by
  rw [Std.ExtTreeMap.mem_iff_isSome_getElem?, reflects.classes, Option.isSome_map, lastHeader?, List.getLast?_isSome]
  simp [classNames]

theorem length_candidatesOf (entries : List Entry) (key : MethodKey) :
    (candidatesOf entries key).length = (methodKeys entries).count key := by
  rw [candidatesOf, List.length_map, methodsOf, ← List.countP_eq_length_filter, methodKeys, List.count, List.countP_map]
  congr 1
  funext method
  rw [Bool.eq_iff_iff]
  simp [Prod.ext_iff]

theorem mem_methods (reflects : Reflects index entries) (key : MethodKey) :
    key ∈ index.methods ↔ key ∈ methodKeys entries := by
  rw [Std.ExtTreeMap.mem_iff_isSome_getElem?, reflects.methods, ← List.count_pos_iff, ← length_candidatesOf,
    List.length_pos_iff]
  split
  next none => simp [none]
  next some => simp [some]

theorem classCount_reflects (reflects : Reflects index entries) :
    index.classCount = (classNames entries).toFinset.card :=
  size_eq_card (mem_classes reflects)

theorem methodCount_reflects (reflects : Reflects index entries) :
    index.methodCount = (methodKeys entries).toFinset.card :=
  size_eq_card (mem_methods reflects)

/-- The candidates are counted key by key. Each key has one for each time a method
stands under it, so together they are as many as the methods. -/
theorem candidateCount_reflects (reflects : Reflects index entries) :
    index.candidateCount = (methodEntries entries).length := by
  have found : ∀ method ∈ index.methods.toList, method.2.length = (methodKeys entries).count method.1 := by
    intro method member
    have stored := Std.ExtTreeMap.mem_toList_iff_getElem?_eq_some.mp member
    rw [← length_candidatesOf, ← candidates_reflects reflects method.1.1 method.1.2, candidates, stored]
    rfl
  -- The library's lemma tests keys for equality by another instance.
  have together : ∑ key ∈ (methodKeys entries).toFinset, (methodKeys entries).count key = (methodKeys entries).length := by
    convert List.sum_toFinset_count_eq_length (methodKeys entries)
  calc index.candidateCount
      = (index.methods.toList.map fun method => method.2.length).sum := List.length_flatMap
    _ = (index.methods.toList.map fun method => (methodKeys entries).count method.1).sum :=
        congrArg List.sum (List.map_congr_left found)
    _ = (index.methods.keys.map fun key => (methodKeys entries).count key).sum := by
        rw [← Std.ExtTreeMap.map_fst_toList_eq_keys, List.map_map]
        rfl
    _ = ∑ key ∈ (methodKeys entries).toFinset, (methodKeys entries).count key := by
        rw [← keys_toFinset (mem_methods reflects), List.sum_toFinset _ Std.ExtTreeMap.nodup_keys]
    _ = (methodKeys entries).length := together
    _ = (methodEntries entries).length := List.length_map _

theorem ofEntries_withoutFields (entries : List Entry) : ofEntries (withoutFields entries) = ofEntries entries := by
  rw [ofEntries, withoutFields, List.foldl_filter, ofEntries]
  congr 1
  funext index entry
  cases entry <;> rfl

/-- The counts of the index of some entries, which are also its sums class by class. A
header counts once for the name it gives, a method once for the class and the name it
stands under, and as a candidate every time it stands there: the candidates for a method
are its entries, none lost and none merged. Fields leave no trace. The same entries once
more bring their candidates again, but no class and no method. -/
theorem ofEntries_counts (entries : List Entry) :
    let index := ofEntries entries
    let again := entries.foldl NameIndex.add index
    (index.classCount = (classNames entries).toFinset.card ∧
      index.methodCount = (methodKeys entries).toFinset.card ∧
      index.candidateCount = (methodEntries entries).length) ∧
    IsListed index ∧
    (∀ owner obfuscated, index.candidates owner obfuscated =
      ((methodEntries entries).filter fun method => method.owner = owner ∧ method.obfuscated = obfuscated).map
        candidate) ∧
    ofEntries (withoutFields entries) = index ∧
    again.classCount = index.classCount ∧ again.methodCount = index.methodCount ∧
      again.candidateCount = 2 * index.candidateCount := by
  intro index again
  have once : Reflects index entries := ofEntries_reflects entries
  have twice : Reflects again (entries ++ entries) := once.addAll entries
  refine ⟨⟨classCount_reflects once, methodCount_reflects once, candidateCount_reflects once⟩, isListed index,
    candidates_reflects once, ofEntries_withoutFields entries, ?_, ?_, ?_⟩
  · rw [classCount_reflects twice, classCount_reflects once, classNames, classEntries_append, List.map_append,
      List.toFinset_append, Finset.union_self, classNames]
  · rw [methodCount_reflects twice, methodCount_reflects once, methodKeys, methodEntries_append, List.map_append,
      List.toFinset_append, Finset.union_self, methodKeys]
  · rw [candidateCount_reflects twice, candidateCount_reflects once, methodEntries_append, List.length_append,
      Nat.two_mul]

end Deobfuscator.Proofs.EntryCounts
