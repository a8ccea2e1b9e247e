import Deobfuscator.NameIndex
import Mathlib.Algebra.GroupWithZero.Nat
import Mathlib.Data.List.Nodup
import Mathlib.Data.List.SplitBy

/-! The methods of an index listed class by class. The list holds the whole index, no
class and no method of a class stands in it twice, and the counts of methods and of
candidates are sums over it. -/

namespace Deobfuscator.Proofs.OwnerListing
open NameIndex

/-- The methods of an index, cut where the class changes. -/
def runs (index : NameIndex) : List (List (MethodKey × List Candidate)) :=
  index.methods.toList.splitBy fun before after => before.1.1 == after.1.1

/-- The class of the first method of a run. No run of an index is empty. -/
def runOwner (run : List (MethodKey × List Candidate)) : String := (run.head?.map (·.1.1)).getD ""

def runMethods (run : List (MethodKey × List Candidate)) : List (String × List Candidate) :=
  run.map fun method => (method.1.2, method.2)

/-- In code point order. -/
def Before (owner later : String) : Prop := compare owner later = .lt

instance : Trans Before Before Before := ⟨Std.TransCmp.lt_trans⟩

variable {index : NameIndex} {run next : List (MethodKey × List Candidate)}

theorem flatten_runs (index : NameIndex) : (runs index).flatten = index.methods.toList :=
  List.flatten_splitBy _ _

theorem methodsByOwner_eq (index : NameIndex) :
    index.methodsByOwner = (runs index).map fun run => (runOwner run, runMethods run) := by
  apply List.filterMap_eq_map_iff_forall_eq_some.mpr
  intro run member
  cases run with
  | nil => exact absurd member (List.nil_notMem_splitBy _ _)
  | cons first rest => rfl

theorem owner_of_run (member : run ∈ runs index) : ∀ method ∈ run, method.1.1 = runOwner run := by
  have chain : (run.map (·.1.1)).IsChain (· = ·) :=
    List.isChain_map_of_isChain _ (fun _ _ same => beq_iff_eq.mp same) (List.isChain_of_mem_splitBy member)
  cases run with
  | nil => simp
  | cons first rest =>
    have same : ∀ owner ∈ rest.map (·.1.1), first.1.1 = owner := (List.pairwise_cons.mp chain.pairwise).1
    intro method inside
    rcases List.mem_cons.mp inside with rfl | later
    · rfl
    · exact (same _ (List.mem_map_of_mem later)).symm

private theorem owner_before {key other : MethodKey} (ordered : MethodKey.order key other = .lt)
    (differ : key.1 ≠ other.1) : Before key.1 other.1 := by
  rcases Ordering.then_eq_lt.mp ordered with before | ⟨same, _⟩
  · exact before
  · exact absurd (Std.LawfulEqOrd.eq_of_compare same) differ

/-- Where two runs meet the class changes, and in the order of an index it can only grow. -/
theorem runOwner_before (member : run ∈ runs index) (member' : next ∈ runs index)
    (ordered : ∀ method ∈ run, ∀ other ∈ next, MethodKey.order method.1 other.1 = .lt)
    (cut : ∃ some some', ((run.getLast some).1.1 == (next.head some').1.1) = false) :
    Before (runOwner run) (runOwner next) := by
  obtain ⟨some, some', differ⟩ := cut
  have last := run.getLast_mem some
  have first := next.head_mem some'
  have before := owner_before (ordered _ last _ first) (beq_eq_false_iff_ne.mp differ)
  rwa [owner_of_run member _ last, owner_of_run member' _ first] at before

theorem runOwners_ascend (index : NameIndex) : ((runs index).map runOwner).Pairwise Before := by
  have ordered : (runs index).flatten.Pairwise fun method later => MethodKey.order method.1 later.1 = .lt := by
    rw [flatten_runs]
    exact Std.ExtTreeMap.ordered_keys_toList
  have apart := (List.pairwise_flatten.mp ordered).2.isChain
  have cut := List.isChain_getLast_head_splitBy (fun before after => before.1.1 == after.1.1) index.methods.toList
  have chain : ((runs index).map runOwner).IsChain Before := by
    rw [List.isChain_map, List.isChain_iff_getElem]
    intro place inside
    apply runOwner_before (List.getElem_mem _) (List.getElem_mem _)
    · exact apart.getElem place inside
    · exact cut.getElem place inside
  exact chain.pairwise

/-- With their classes put back, the methods in the list are those of the index. -/
theorem flatMap_methodsByOwner (index : NameIndex) :
    (index.methodsByOwner.flatMap fun owner => owner.2.map fun method => ((owner.1, method.1), method.2)) =
      index.methods.toList := by
  rw [methodsByOwner_eq, List.flatMap_map, ← flatten_runs, ← List.flatMap_id]
  apply List.flatMap_congr
  intro run member
  rw [runMethods, List.map_map]
  refine (List.map_congr_left ?_).trans (List.map_id run)
  intro method inside
  have owner : method.1.1 = runOwner run := owner_of_run member method inside
  simp [← owner]

theorem owners_nodup (index : NameIndex) : (index.methodsByOwner.map (·.1)).Nodup := by
  rw [methodsByOwner_eq, List.map_map]
  apply (runOwners_ascend index).imp
  intro owner later before same
  simp [Before, same] at before

theorem names_nodup (index : NameIndex) : ∀ owner ∈ index.methodsByOwner, (owner.2.map (·.1)).Nodup := by
  intro owner member
  have keys : (index.methods.toList.map (·.1)).Nodup := by
    rw [Std.ExtTreeMap.map_fst_toList_eq_keys]
    exact Std.ExtTreeMap.nodup_keys
  rw [← flatMap_methodsByOwner, List.map_flatMap] at keys
  have inside := (List.pairwise_flatMap.mp keys).1 owner member
  apply List.Nodup.of_map fun name => (owner.1, name)
  rwa [List.map_map] at inside ⊢

/-- The list class by class has each class and each of its methods once, and both counts
are sums over it. -/
structure IsListed (index : NameIndex) : Prop where
  methods : (index.methodsByOwner.flatMap fun owner => owner.2.map fun method => ((owner.1, method.1), method.2)) =
    index.methods.toList
  owners : (index.methodsByOwner.map (·.1)).Nodup
  names : ∀ owner ∈ index.methodsByOwner, (owner.2.map (·.1)).Nodup
  methodCount : index.methodCount = (index.methodsByOwner.map fun owner => owner.2.length).sum
  candidateCount : index.candidateCount =
    (index.methodsByOwner.map fun owner => (owner.2.map fun method => method.2.length).sum).sum

theorem isListed (index : NameIndex) : IsListed index := by
  refine ⟨flatMap_methodsByOwner index, owners_nodup index, names_nodup index, ?_, ?_⟩
  · rw [methodCount, ← Std.ExtTreeMap.length_toList, ← flatMap_methodsByOwner, List.length_flatMap]
    simp only [List.length_map]
  · rw [candidateCount, ← flatMap_methodsByOwner, List.flatMap_assoc, List.length_flatMap]
    simp only [List.flatMap_map, List.length_flatMap]

end Deobfuscator.Proofs.OwnerListing
