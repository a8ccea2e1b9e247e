import Deobfuscator.Proofs.CacheHistory
import Mathlib.Data.List.Infix

/-! How far apart two builds of one version are. A version that is built stays for
as many further builds as there is room for, and as each of these is of a version
that is not resident, builds in a row are of different versions. -/

namespace Deobfuscator.Proofs.BuildSpacing
open Cache CacheFetch CacheHistory History

variable {α ε : Type} {versions names : List String} {history : History α}

/-- So many builds in a row, or fewer, are of different versions. -/
def Spaced (count : Nat) (versions : List String) : Prop :=
  ∀ window, window <:+: versions → window.length ≤ count → window.Nodup

/-- The versions that were built, in the order of their builds. -/
def builds (history : History α) : List String := history.built.map (·.1)

theorem Spaced.concat {count : Nat} (spaced : Spaced (count + 1) versions) {version : String}
    (absent : version ∉ versions.drop (versions.length - count)) : Spaced (count + 1) (versions ++ [version]) := by
  intro window inside short
  rcases List.infix_concat_iff.mp inside with last | older
  · rcases List.suffix_concat_iff.mp last with rfl | ⟨front, rfl, ends⟩
    · exact List.nodup_nil
    · rw [List.length_append, List.length_singleton] at short
      have distinct : front.Nodup := spaced front ends.isInfix (by omega)
      have within : front.length ≤ (versions.drop (versions.length - count)).length := by
        have bound := ends.length_le
        rw [List.length_drop]
        omega
      have recent : front <:+ versions.drop (versions.length - count) :=
        List.suffix_of_suffix_length_le ends (List.drop_suffix _ _) within
      rw [List.nodup_append]
      refine ⟨distinct, by simp, ?_⟩
      intro other member last single same
      obtain rfl := List.mem_singleton.mp single
      exact absent (recent.mem (same ▸ member))
  · exact spaced window older short

/-- The resident versions are those of the last builds. -/
theorem versions_eq (recent : Recent history) :
    history.cache.versions = (builds history).drop ((builds history).length - history.cache.capacity) := by
  rw [Cache.versions, recent.resident, List.map_drop, past, builds, List.length_map]

theorem builds_store (history : History α) (version : String) (value : α) :
    builds (history.store version value) = builds history ++ [version] := by
  rw [builds, History.store, List.map_append]
  rfl

theorem step_spaced (recent : Recent history) (spaced : Spaced (history.cache.capacity + 1) (builds history))
    (call : Call ε α) : Spaced ((history.step call).cache.capacity + 1) (builds (history.step call)) := by
  rw [step_capacity]
  rcases step_cases history call with same | ⟨notices, value, absent, tried, stored⟩
  · rw [same]
    exact spaced
  · rw [versions_eq recent] at absent
    rw [stored, builds_store]
    exact spaced.concat absent

theorem steps_spaced (recent : Recent history) (spaced : Spaced (history.cache.capacity + 1) (builds history))
    (calls : List (Call ε α)) :
    Spaced ((calls.foldl History.step history).cache.capacity + 1) (builds (calls.foldl History.step history)) := by
  induction calls generalizing history with
  | nil => exact spaced
  | cons call calls ih => exact ih (recent.step call) (step_spaced recent spaced call)

theorem run_spaced (capacity : Nat) (positive : 0 < capacity) (calls : List (Call ε α)) :
    Spaced (capacity + 1) (builds (run capacity positive calls)) := by
  have start : Spaced (capacity + 1) (builds (⟨.withCapacity capacity positive, [], []⟩ : History α)) := by
    intro window inside _
    rw [List.infix_nil.mp inside]
    exact List.nodup_nil
  have spaced := steps_spaced (start_recent capacity positive) start calls
  rwa [← run, run_capacity] at spaced

theorem step_named {call : Call ε α} (named : ∀ version ∈ builds history, version ∈ names)
    (asked : call.version ∈ names) : ∀ version ∈ builds (history.step call), version ∈ names := by
  rcases step_cases history call with same | ⟨notices, value, absent, tried, stored⟩
  · rw [same]
    exact named
  · rw [stored, builds_store]
    intro version member
    rcases List.mem_append.mp member with older | last
    · exact named version older
    · exact List.mem_singleton.mp last ▸ asked

/-- Only versions that are asked for are built. -/
theorem steps_named {calls : List (Call ε α)} (named : ∀ version ∈ builds history, version ∈ names)
    (asked : ∀ call ∈ calls, call.version ∈ names) :
    ∀ version ∈ builds (calls.foldl History.step history), version ∈ names := by
  induction calls generalizing history with
  | nil => exact named
  | cons call calls ih =>
    exact ih (step_named named (asked call List.mem_cons_self))
      fun later member => asked later (List.mem_cons_of_mem call member)

/-- More builds than there are names would have two of one name too close together. -/
theorem Spaced.length_le {count : Nat} (spaced : Spaced (count + 1) versions) (few : names.length ≤ count)
    (named : ∀ version ∈ versions, version ∈ names) : versions.length ≤ count := by
  by_contra more
  have start : versions.take (count + 1) <:+: versions := (List.take_prefix _ _).isInfix
  have length : (versions.take (count + 1)).length = count + 1 := List.length_take_of_le (by omega)
  have distinct : (versions.take (count + 1)).Nodup := spaced _ start (Nat.le_of_eq length)
  have bounded := distinct.length_le_of_subset fun version member => named version (start.subset member)
  omega

/-- Between two builds of one version there are as many others as there is room
for, and the first so many of them are of different versions, none of them that
one. So a run that asks for no more versions than there is room for builds each at
most once and evicts nothing. -/
theorem run_builds_apart (capacity : Nat) (positive : 0 < capacity) (calls : List (Call ε α)) :
    let history := run capacity positive calls
    (∀ front version between back, front ++ version :: (between ++ version :: back) = builds history →
      capacity ≤ between.length ∧ (version :: between.take capacity).Nodup) ∧
    ∀ names : List String, names.length ≤ capacity → (∀ call ∈ calls, call.version ∈ names) →
      (builds history).Nodup ∧ history.evicted = [] := by
  intro history
  have spaced : Spaced (capacity + 1) (builds history) := run_spaced capacity positive calls
  refine ⟨?_, ?_⟩
  · intro front version between back whole
    refine ⟨?_, ?_⟩
    · by_contra close
      have inside : version :: (between ++ [version]) <:+: builds history := ⟨front, back, by simp [← whole]⟩
      have distinct := spaced _ inside (by simp only [List.length_cons, List.length_append, List.length_nil]; omega)
      exact (List.nodup_cons.mp distinct).1 (List.mem_append_right between List.mem_cons_self)
    · have inside : version :: between.take capacity <:+: builds history := by
        refine ⟨front, between.drop capacity ++ version :: back, ?_⟩
        rw [← whole, List.append_assoc, List.cons_append, ← List.append_assoc, List.take_append_drop]
      refine spaced _ inside ?_
      rw [List.length_cons, List.length_take]
      omega
  · intro names few asked
    have named : ∀ version ∈ builds history, version ∈ names :=
      steps_named (fun version member => absurd member List.not_mem_nil) asked
    have short := spaced.length_le few named
    refine ⟨spaced _ List.infix_rfl (by omega), ?_⟩
    have recent : Recent history := run_recent capacity positive calls
    have nothing : history.past = 0 := by
      rw [builds, List.length_map] at short
      have same : history.cache.capacity = capacity := run_capacity capacity positive calls
      rw [past, same]
      omega
    rw [recent.evicted, nothing]
    rfl

/-- Room for two: a version is built again after two others, with a hit and a failed
build in between, and a run about two versions that evicts neither. -/
theorem run_builds_apart_rebuilt :
    let made (version : String) : Call Unit Nat := ⟨version, fun _ => ⟨[], .ok 0⟩⟩
    let failed (version : String) : Call Unit Nat := ⟨version, fun _ => ⟨[], .error ()⟩⟩
    let calls := [made "a", failed "b", made "b", made "a", made "c", failed "a", made "a"]
    let few := [failed "a", made "b", made "a", made "b", failed "a"]
    0 < 2 ∧ [] ++ "a" :: (["b", "c"] ++ "a" :: []) = builds (run 2 Nat.two_pos calls) ∧
      2 ≤ ["b", "c"].length ∧ ("a" :: ["b", "c"].take 2).Nodup ∧
      ["a", "b"].length ≤ 2 ∧ (∀ call ∈ few, call.version ∈ ["a", "b"]) ∧
      (builds (run 2 Nat.two_pos few)).Nodup ∧ (run 2 Nat.two_pos few).evicted = [] := by
  intro made failed calls few
  have built : [] ++ "a" :: (["b", "c"] ++ "a" :: []) = builds (run 2 Nat.two_pos calls) := by decide
  have asked : ∀ call ∈ few, call.version ∈ ["a", "b"] := by simp [few, made, failed]
  obtain ⟨between, distinct⟩ := (run_builds_apart 2 Nat.two_pos calls).1 [] "a" ["b", "c"] [] built
  obtain ⟨once, kept⟩ := (run_builds_apart 2 Nat.two_pos few).2 ["a", "b"] (Nat.le_refl 2) asked
  exact ⟨Nat.two_pos, built, between, distinct, Nat.le_refl 2, asked, once, kept⟩

end Deobfuscator.Proofs.BuildSpacing
