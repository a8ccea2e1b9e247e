import Deobfuscator.Proofs.CacheFetch

/-! A cache and the log of everything that was ever built for it. The log only
grows; the cache is always its recent part, and what left the cache is the rest. This
is also what the notices of the calls report. -/

namespace Deobfuscator.Proofs.CacheHistory
open Cache CacheFetch

variable {α ε : Type}

structure Call (ε α : Type) where
  version : String
  build : Unit → Attempt ε α

/-- The versions that notices report as evicted. -/
def evictions (notices : List Notice) : List String :=
  notices.filterMap fun | .evicted version => some version | _ => none

theorem evictions_append (first second : List Notice) :
    evictions (first ++ second) = evictions first ++ evictions second :=
  List.filterMap_append

theorem evictions_reported (versions : List String) : evictions (versions.map .evicted) = versions := by
  rw [evictions, List.filterMap_map]
  exact List.filterMap_some

/-- The build of a call reports no eviction, as it does not use the cache. -/
def Call.IsApart (call : Call ε α) : Prop := evictions (call.build ()).notices = []

/-- The notices of calls on a cache, one after the other. -/
def noticesOf (cache : Cache α) : List (Call ε α) → List Notice
  | [] => []
  | call :: rest =>
    let (after, fetched) := cache.fetch call.version call.build
    fetched.notices call.version ++ noticesOf after rest

/-- A cache, the values that were built for it, and the versions that had to
leave it, both in the order in which that happened. -/
structure History (α : Type) where
  cache : Cache α
  built : List (String × α)
  evicted : List String

namespace History

/-- Only a fetch that stores a value adds to the log. -/
def step (history : History α) (call : Call ε α) : History α :=
  match history.cache.fetch call.version call.build with
  | (after, .stored _ value evicted) =>
    ⟨after, history.built ++ [(call.version, value)], history.evicted ++ evicted⟩
  | (after, _) => { history with cache := after }

def run (capacity : Nat) (positive : 0 < capacity) (calls : List (Call ε α)) : History α :=
  calls.foldl step ⟨.withCapacity capacity positive, [], []⟩

/-- The number of builds that are older than everything in the cache. -/
def past (history : History α) : Nat := history.built.length - history.cache.capacity

/-- The value that was built last for a version. -/
def latest? (history : History α) (version : String) : Option α := history.built.reverse.lookup version

/-- The cache is the recent part of the log. -/
structure Recent (history : History α) : Prop where
  resident : history.cache.entries = history.built.drop history.past
  evicted : history.evicted = (history.built.take history.past).map (·.1)
  distinct : history.cache.versions.Nodup

theorem start_recent (capacity : Nat) (positive : 0 < capacity) :
    Recent (⟨.withCapacity capacity positive, [], []⟩ : History α) := by
  refine ⟨?_, ?_, List.nodup_nil⟩
  · exact List.drop_nil.symm
  · rw [List.take_nil, List.map_nil]

/-- A value that was just built is logged, and so is what leaves for it. -/
def store (history : History α) (version : String) (value : α) : History α :=
  ⟨(history.cache.insert version value).1, history.built ++ [(version, value)],
    history.evicted ++ (history.cache.insert version value).2⟩

theorem step_stored {history : History α} {call : Call ε α} {notices : List Notice} {value : α}
    (absent : call.version ∉ history.cache.versions) (tried : call.build () = ⟨notices, .ok value⟩) :
    history.step call = history.store call.version value := by
  rw [step, fetch_stored absent tried]
  rfl

/-- A step stores what was built for a version that was absent. A hit and a
failed build leave everything as it was. -/
theorem step_cases (history : History α) (call : Call ε α) :
    history.step call = history ∨
    ∃ notices value, call.version ∉ history.cache.versions ∧ call.build () = ⟨notices, .ok value⟩ ∧
      history.step call = history.store call.version value := by
  by_cases resident : call.version ∈ history.cache.versions
  · obtain ⟨value, found⟩ := get?_resident resident
    left
    rw [step, fetch_resident found]
  · rcases tried : call.build () with ⟨notices, fault | value⟩
    · left
      rw [step, fetch_failed resident tried]
    · exact Or.inr ⟨notices, value, resident, rfl, step_stored resident tried⟩

/-- Storing a value appends to the log and moves its cut by at most one entry. -/
theorem Recent.store {history : History α} (recent : Recent history) {version : String} (value : α)
    (absent : version ∉ history.cache.versions) :
    Recent (history.store version value) := by
  obtain ⟨entries, left⟩ := insert_absent value absent
  have positive := history.cache.capacity_pos
  have inside : history.past ≤ history.built.length := Nat.sub_le _ _
  have excess : history.past + (history.cache.entries.length + 1 - history.cache.capacity) =
      history.built.length + 1 - history.cache.capacity := by
    rw [recent.resident, List.length_drop, past]
    omega
  have appended : history.cache.entries ++ [(version, value)] =
      (history.built ++ [(version, value)]).drop history.past := by
    rw [recent.resident, List.drop_append_of_le_length inside]
  have older : history.built.take history.past = (history.built ++ [(version, value)]).take history.past :=
    (List.take_append_of_le_length inside).symm
  refine ⟨?_, ?_, ?_⟩
  · rw [History.store, entries, appended, List.drop_drop, excess]
    simp only [past, insert_capacity, List.length_append, List.length_singleton]
  · rw [History.store, left, appended, recent.evicted, older, ← List.map_append, ← List.take_add, excess]
    simp only [past, insert_capacity, List.length_append, List.length_singleton]
  · rw [History.store, versions, entries, List.map_drop]
    apply (List.drop_sublist _ _).nodup
    rw [List.map_append, List.nodup_append]
    refine ⟨recent.distinct, by simp, ?_⟩
    intro other resident last member same
    obtain rfl := List.mem_singleton.mp member
    exact absent (same ▸ resident)

theorem Recent.step {history : History α} (recent : Recent history) (call : Call ε α) : Recent (history.step call) := by
  rcases step_cases history call with same | ⟨notices, value, absent, tried, stored⟩
  · rw [same]
    exact recent
  · rw [stored]
    exact recent.store value absent

theorem Recent.steps {history : History α} (recent : Recent history) (calls : List (Call ε α)) :
    Recent (calls.foldl History.step history) := by
  induction calls generalizing history with
  | nil => exact recent
  | cons call calls ih => exact ih (recent.step call)

theorem run_recent (capacity : Nat) (positive : 0 < capacity) (calls : List (Call ε α)) :
    Recent (run capacity positive calls) :=
  (start_recent capacity positive).steps calls

theorem step_capacity (history : History α) (call : Call ε α) :
    (history.step call).cache.capacity = history.cache.capacity := by
  rcases step_cases history call with same | ⟨notices, value, absent, tried, stored⟩
  · rw [same]
  · rw [stored]
    rfl

theorem run_capacity (capacity : Nat) (positive : 0 < capacity) (calls : List (Call ε α)) :
    (run capacity positive calls).cache.capacity = capacity := by
  have kept (history : History α) : (calls.foldl step history).cache.capacity = history.cache.capacity := by
    induction calls generalizing history with
    | nil => rfl
    | cons call calls ih => rw [List.foldl_cons, ih, step_capacity]
  exact kept _

theorem Recent.length {history : History α} (recent : Recent history) :
    history.cache.entries.length = min history.cache.capacity history.built.length := by
  rw [recent.resident, List.length_drop, past]
  omega

/-- Versions are resident once only, so the value that is found is the one that
was built last. -/
theorem Recent.latest {history : History α} (recent : Recent history) {version : String} {value : α}
    (found : history.cache.get? version = some value) : history.latest? version = some value := by
  obtain ⟨front, back, split, _⟩ := List.lookup_eq_some_iff.mp found
  have distinct := recent.distinct
  rw [versions, split, List.map_append, List.map_cons, List.nodup_append, List.nodup_cons] at distinct
  have log : history.built = history.built.take history.past ++ (front ++ (version, value) :: back) := by
    rw [← split, recent.resident, List.take_append_drop]
  rw [latest?, log, List.reverse_append, List.reverse_append, List.reverse_cons, List.append_assoc, List.append_assoc]
  refine List.lookup_eq_some_iff.mpr ⟨back.reverse, _, rfl, ?_⟩
  intro entry member
  have later : entry.1 ∈ back.map (·.1) := List.mem_map_of_mem (List.mem_reverse.mp member)
  have different : version ≠ entry.1 := fun same => distinct.2.1.1 (same ▸ later)
  exact bne_iff_ne.mpr different

theorem step_cache (history : History α) (call : Call ε α) :
    (history.step call).cache = (history.cache.fetch call.version call.build).1 := by
  rw [step]
  split
  next shape => rw [shape]
  next shape => rw [shape]

/-- A hit tells nothing. Any other call announces its build, passes on its notices, and
then reports the versions that leave. -/
theorem step_notices (history : History α) (call : Call ε α) :
    (history.cache.fetch call.version call.build).2.notices call.version =
      if call.version ∈ history.cache.versions then []
      else .loading call.version :: (call.build ()).notices ++
        ((history.step call).evicted.drop history.evicted.length).map .evicted := by
  have ends := fetch_ends history.cache call.version call.build
  rw [step]
  generalize history.cache.fetch call.version call.build = ended at ends
  cases ends with
  | resident value found =>
    have resident : call.version ∈ history.cache.versions := List.mem_map_of_mem (get?_mem found)
    simp [Fetched.notices, resident]
  | failed notices fault absent tried => simp [Fetched.notices, absent, tried]
  | stored notices value absent tried => simp [Fetched.notices, absent, tried]

/-- The versions that leave in a call are those that it reports. -/
theorem step_evicted {history : History α} {call : Call ε α} (apart : call.IsApart) :
    (history.step call).evicted =
      history.evicted ++ evictions ((history.cache.fetch call.version call.build).2.notices call.version) := by
  rw [step_notices]
  split
  next resident =>
    obtain ⟨value, found⟩ := get?_resident resident
    rw [step, fetch_resident found]
    exact (List.append_nil _).symm
  next absent =>
    have grown : history.evicted <+: (history.step call).evicted := by
      rcases step_cases history call with same | ⟨notices, value, absent, tried, stored⟩
      · exact same.symm ▸ List.prefix_rfl
      · exact stored ▸ List.prefix_append _ _
    rw [List.cons_append]
    change _ = history.evicted ++ evictions ((call.build ()).notices ++ _)
    rw [evictions_append, apart, evictions_reported, List.nil_append]
    exact (List.prefix_iff_eq_append.mp grown).symm

/-- The versions that leave in calls are those that their notices report. -/
theorem steps_evicted {history : History α} {calls : List (Call ε α)} (apart : ∀ call ∈ calls, call.IsApart) :
    (calls.foldl step history).evicted = history.evicted ++ evictions (noticesOf history.cache calls) := by
  induction calls generalizing history with
  | nil => exact (List.append_nil _).symm
  | cons call calls ih =>
    obtain ⟨first, rest⟩ := List.forall_mem_cons.mp apart
    rw [List.foldl_cons, ih rest, step_evicted first, step_cache, noticesOf, evictions_append, List.append_assoc]

/-- What one more call comes to after some history. -/
structure Answers (history : History α) (call : Call ε α) : Prop where
  /-- The build is tried exactly for a version that is not resident. -/
  tried : (history.cache.fetch call.version call.build).2.wasBuilt = true ↔ call.version ∉ history.cache.versions
  /-- A hit gives the value that was built last and changes nothing, whatever the build would do. -/
  hit : call.version ∈ history.cache.versions → ∃ value, history.latest? call.version = some value ∧
    ∀ build : Unit → Attempt ε α, history.cache.fetch call.version build = (history.cache, .resident value)
  /-- A failed build gives its own fault and changes nothing. -/
  failed : ∀ notices fault, call.version ∉ history.cache.versions → call.build () = ⟨notices, .error fault⟩ →
    history.cache.fetch call.version call.build = (history.cache, .failed notices fault)
  /-- A successful build gives its value and logs it. -/
  stored : ∀ notices value, call.version ∉ history.cache.versions → call.build () = ⟨notices, .ok value⟩ →
    (history.cache.fetch call.version call.build).2.result = .ok value ∧
    (history.step call).built = history.built ++ [(call.version, value)]
  /-- After a call that succeeds its version is resident. -/
  available : ∀ value, (history.cache.fetch call.version call.build).2.result = .ok value →
    call.version ∈ (history.step call).cache.versions
  /-- A hit reports nothing. A build is announced, its notices are passed on, and the versions that leave for its value
  are reported after it. -/
  reported : (history.cache.fetch call.version call.build).2.notices call.version =
    if call.version ∈ history.cache.versions then []
    else .loading call.version :: (call.build ()).notices ++
      ((history.step call).evicted.drop history.evicted.length).map .evicted

theorem Recent.answers {history : History α} (recent : Recent history) (call : Call ε α) : Answers history call := by
  have ends := fetch_ends history.cache call.version call.build
  refine ⟨?_, ?_, fun _ _ => fetch_failed, ?_, ?_, step_notices history call⟩
  · generalize history.cache.fetch call.version call.build = ended at ends
    cases ends with
    | resident value found =>
      have resident : call.version ∈ history.cache.versions := List.mem_map_of_mem (get?_mem found)
      simp [Fetched.wasBuilt, resident]
    | failed notices fault absent tried => simp [Fetched.wasBuilt, absent]
    | stored notices value absent tried => simp [Fetched.wasBuilt, absent]
  · intro resident
    obtain ⟨value, found⟩ := get?_resident resident
    exact ⟨value, recent.latest found, fetch_resident found⟩
  · intro notices value absent tried
    rw [step_stored absent tried, fetch_stored absent tried]
    exact ⟨rfl, rfl⟩
  · intro value succeeded
    unfold History.step
    generalize history.cache.fetch call.version call.build = ended at ends succeeded
    cases ends with
    | resident value found => exact List.mem_map_of_mem (get?_mem found)
    | failed notices fault absent tried => cases succeeded
    | stored notices value absent tried => exact insert_resident value absent

/-- After any calls on a fresh cache its entries, oldest first, are the last of
the values that were built, as many as there is room for. No version is twice
among them. The versions of all other values had to leave, in the order in which the
values were built, and the notices of the calls report just these as evicted. This
settles what every further call does. -/
theorem run_keeps_recent (capacity : Nat) (positive : 0 < capacity) (calls : List (Call ε α)) :
    let history := run capacity positive calls
    (history.cache.entries = history.built.drop (history.built.length - capacity) ∧
      history.cache.entries.length = min capacity history.built.length) ∧
    (history.cache.versions.Nodup ∧ history.cache.versions.length ≤ capacity) ∧
    history.evicted = (history.built.take (history.built.length - capacity)).map (·.1) ∧
    ((∀ call ∈ calls, call.IsApart) →
      evictions (noticesOf (.withCapacity capacity positive) calls) =
        (history.built.take (history.built.length - capacity)).map (·.1)) ∧
    ∀ call : Call ε α, Answers history call := by
  intro history
  have recent : Recent history := run_recent capacity positive calls
  have same : history.cache.capacity = capacity := run_capacity capacity positive calls
  have length := recent.length
  rw [same] at length
  have left : history.evicted = (history.built.take (history.built.length - capacity)).map (·.1) := by
    rw [recent.evicted, past, same]
  refine ⟨⟨?_, length⟩, ⟨recent.distinct, ?_⟩, left, ?_, recent.answers⟩
  · rw [recent.resident, past, same]
  · rw [versions, List.length_map, length]
    exact Nat.min_le_left _ _
  · intro apart
    have whole : history.evicted = [] ++ evictions (noticesOf (.withCapacity capacity positive) calls) :=
      steps_evicted apart
    rw [List.nil_append] at whole
    exact whole.symm.trans left

/-- Room for two: a hit, a failed build, two evictions, and a version that is
built again after it had to leave. One build has a notice of its own. -/
theorem run_keeps_recent_rebuilt :
    let calls : List (Call Unit Nat) :=
      [⟨"a", fun _ => ⟨[], .ok 1⟩⟩, ⟨"b", fun _ => ⟨[], .ok 2⟩⟩, ⟨"a", fun _ => ⟨[], .ok 3⟩⟩,
        ⟨"c", fun _ => ⟨[], .error ()⟩⟩, ⟨"c", fun _ => ⟨[.reading "c"], .ok 4⟩⟩, ⟨"a", fun _ => ⟨[], .ok 5⟩⟩]
    let history := run 2 Nat.two_pos calls
    0 < 2 ∧ history.built = [("a", 1), ("b", 2), ("c", 4), ("a", 5)] ∧
    history.cache.entries = [("c", 4), ("a", 5)] ∧ history.evicted = ["a", "b"] ∧
    (∀ call ∈ calls, call.IsApart) ∧ evictions (noticesOf (.withCapacity 2 Nat.two_pos) calls) = ["a", "b"] ∧
    Answers history (⟨"b", fun _ => ⟨[], .ok 6⟩⟩ : Call Unit Nat) := by
  intro calls history
  have built : history.built = [("a", 1), ("b", 2), ("c", 4), ("a", 5)] := by decide
  have apart : ∀ call ∈ calls, call.IsApart := by simp [calls, Call.IsApart, evictions]
  obtain ⟨⟨entries, _⟩, _, evicted, reported, answers⟩ := run_keeps_recent 2 Nat.two_pos calls
  have kept : history.built.drop (history.built.length - 2) = [("c", 4), ("a", 5)] := by
    rw [built]
    rfl
  have left : (history.built.take (history.built.length - 2)).map (·.1) = ["a", "b"] := by
    rw [built]
    rfl
  exact ⟨Nat.two_pos, built, entries.trans kept, evicted.trans left, apart, (reported apart).trans left, answers _⟩

end History

end Deobfuscator.Proofs.CacheHistory
