import Deobfuscator.Cache

/-! What one fetch does to a cache. Callers reason with these facts and leave the
loops over the entries alone. -/

namespace Deobfuscator.Proofs.CacheFetch
open Cache

variable {α ε : Type}

theorem assign_absent {version : String} {entries : List (String × α)} (value : α)
    (absent : version ∉ entries.map (·.1)) : assign version value entries = entries ++ [(version, value)] := by
  induction entries with
  | nil => rfl
  | cons entry rest ih =>
    simp only [List.map_cons, List.mem_cons, not_or] at absent
    rw [assign, if_neg (Ne.symm absent.1), ih absent.2]
    rfl

theorem mem_assign {version : String} {value : α} {entries : List (String × α)} {entry : String × α}
    (member : entry ∈ assign version value entries) : entry = (version, value) ∨ entry ∈ entries := by
  induction entries with
  | nil => exact Or.inl (List.mem_singleton.mp member)
  | cons first rest ih =>
    rw [assign] at member
    split at member
    next same =>
      rcases List.mem_cons.mp member with rfl | later
      · exact Or.inl (by rw [same])
      · exact Or.inr (List.mem_cons_of_mem _ later)
    next =>
      rcases List.mem_cons.mp member with rfl | later
      · exact Or.inr List.mem_cons_self
      · exact (ih later).imp id (List.mem_cons_of_mem _)

/-- Taking the oldest entries away one by one cuts the entries in two. -/
theorem shrink_eq (capacity : Nat) (entries : List (String × α)) :
    shrink capacity entries =
      (entries.drop (entries.length - capacity), (entries.take (entries.length - capacity)).map (·.1)) := by
  induction entries with
  | nil => simp [shrink]
  | cons oldest rest ih =>
    rw [shrink, List.length_cons]
    by_cases more : capacity < rest.length + 1
    · have excess : rest.length + 1 - capacity = rest.length - capacity + 1 := by omega
      rw [if_pos more, excess, ih]
      rfl
    · have fits : rest.length + 1 - capacity = 0 := by omega
      rw [if_neg more, fits]
      rfl

theorem insert_capacity (cache : Cache α) (version : String) (value : α) :
    (cache.insert version value).1.capacity = cache.capacity := rfl

theorem mem_insert {cache : Cache α} {version : String} {value : α} {entry : String × α}
    (member : entry ∈ (cache.insert version value).1.entries) : entry = (version, value) ∨ entry ∈ cache.entries := by
  simp only [Cache.insert, shrink_eq] at member
  exact mem_assign (List.mem_of_mem_drop member)

/-- A version that is not resident is added after all others, and whatever
exceeds the capacity leaves from the front. -/
theorem insert_absent {cache : Cache α} {version : String} (value : α) (absent : version ∉ cache.versions) :
    (cache.insert version value).1.entries =
      (cache.entries ++ [(version, value)]).drop (cache.entries.length + 1 - cache.capacity) ∧
    (cache.insert version value).2 =
      ((cache.entries ++ [(version, value)]).take (cache.entries.length + 1 - cache.capacity)).map (·.1) := by
  simp only [Cache.insert, shrink_eq, assign_absent value absent, List.length_append, List.length_singleton, and_self]

/-- The new entry is never among those that leave, as there is room for one. -/
theorem insert_resident {cache : Cache α} {version : String} (value : α) (absent : version ∉ cache.versions) :
    version ∈ (cache.insert version value).1.versions := by
  have positive := cache.capacity_pos
  have last : (version, value) ∈ (cache.insert version value).1.entries := by
    rw [(insert_absent value absent).1, List.drop_append_of_le_length (by omega)]
    exact List.mem_append_right _ List.mem_cons_self
  exact List.mem_map_of_mem last

theorem get?_eq_none_iff {cache : Cache α} {version : String} :
    cache.get? version = none ↔ version ∉ cache.versions := by
  simp only [get?, versions, List.lookup_eq_none_iff, bne_iff_ne, List.mem_map, not_exists, not_and]
  exact ⟨fun different entry member same => different entry member same.symm,
    fun different entry member same => different entry member same.symm⟩

theorem get?_mem {cache : Cache α} {version : String} {value : α} (found : cache.get? version = some value) :
    (version, value) ∈ cache.entries := by
  obtain ⟨front, back, same, _⟩ := List.lookup_eq_some_iff.mp found
  rw [same]
  exact List.mem_append_right _ List.mem_cons_self

theorem get?_resident {cache : Cache α} {version : String} (resident : version ∈ cache.versions) :
    ∃ value, cache.get? version = some value := by
  cases found : cache.get? version with
  | some value => exact ⟨value, rfl⟩
  | none => exact absurd resident (get?_eq_none_iff.mp found)

theorem fetch_resident {cache : Cache α} {version : String} {value : α} (found : cache.get? version = some value)
    (build : Unit → Attempt ε α) : cache.fetch version build = (cache, .resident value) := by
  rw [fetch, found]

theorem fetch_failed {cache : Cache α} {version : String} {build : Unit → Attempt ε α} {notices : List Notice}
    {fault : ε} (absent : version ∉ cache.versions) (tried : build () = ⟨notices, .error fault⟩) :
    cache.fetch version build = (cache, .failed notices fault) := by
  rw [fetch, get?_eq_none_iff.mpr absent, tried]

theorem fetch_stored {cache : Cache α} {version : String} {build : Unit → Attempt ε α} {notices : List Notice}
    {value : α} (absent : version ∉ cache.versions) (tried : build () = ⟨notices, .ok value⟩) :
    cache.fetch version build =
      ((cache.insert version value).1, .stored notices value (cache.insert version value).2) := by
  rw [fetch, get?_eq_none_iff.mpr absent, tried]

/-- The ways in which a fetch can end, with the cache it leaves. -/
inductive Ends (cache : Cache α) (version : String) (build : Unit → Attempt ε α) : Cache α × Fetched ε α → Prop where
  | resident (value : α) (found : cache.get? version = some value) :
      Ends cache version build (cache, .resident value)
  | failed (notices : List Notice) (fault : ε) (absent : version ∉ cache.versions)
      (tried : build () = ⟨notices, .error fault⟩) : Ends cache version build (cache, .failed notices fault)
  | stored (notices : List Notice) (value : α) (absent : version ∉ cache.versions)
      (tried : build () = ⟨notices, .ok value⟩) :
      Ends cache version build
        ((cache.insert version value).1, .stored notices value (cache.insert version value).2)

theorem fetch_ends (cache : Cache α) (version : String) (build : Unit → Attempt ε α) :
    Ends cache version build (cache.fetch version build) := by
  by_cases resident : version ∈ cache.versions
  · obtain ⟨value, found⟩ := get?_resident resident
    rw [fetch_resident found]
    exact .resident value found
  · rcases tried : build () with ⟨notices, fault | value⟩
    · rw [fetch_failed resident tried]
      exact .failed notices fault resident tried
    · rw [fetch_stored resident tried]
      exact .stored notices value resident tried

theorem fetch_error_iff {cache : Cache α} {version : String} {build : Unit → Attempt ε α} {fault : ε} :
    (cache.fetch version build).2.result = .error fault ↔
      version ∉ cache.versions ∧ (build ()).result = .error fault := by
  have ends := fetch_ends cache version build
  generalize cache.fetch version build = ended at ends
  cases ends with
  | resident value found =>
    have resident : version ∈ cache.versions := List.mem_map_of_mem (get?_mem found)
    simp [Fetched.result, resident]
  | failed notices found absent tried => simp [Fetched.result, absent, tried]
  | stored notices value absent tried => simp [Fetched.result, tried]

/-- What holds of every resident value and of every value that is built, each for its
version, holds of what a fetch gives and leaves. -/
theorem fetch_forall {P : String → α → Prop} (cache : Cache α) (version : String) (build : Unit → Attempt ε α)
    (resident : ∀ entry ∈ cache.entries, P entry.1 entry.2)
    (built : ∀ value, (build ()).result = .ok value → P version value) :
    (∀ entry ∈ (cache.fetch version build).1.entries, P entry.1 entry.2) ∧
      ∀ value, (cache.fetch version build).2.result = .ok value → P version value := by
  have ends := fetch_ends cache version build
  generalize cache.fetch version build = ended at ends
  cases ends with
  | resident value found =>
    refine ⟨resident, ?_⟩
    rintro _ ⟨⟩
    exact resident _ (get?_mem found)
  | failed notices fault absent tried =>
    refine ⟨resident, ?_⟩
    rintro _ ⟨⟩
  | stored notices value absent tried =>
    have valid : P version value := built value (congrArg Attempt.result tried)
    refine ⟨?_, ?_⟩
    · intro entry member
      rcases mem_insert member with rfl | older
      · exact valid
      · exact resident entry older
    · rintro _ ⟨⟩
      exact valid

end Deobfuscator.Proofs.CacheFetch
