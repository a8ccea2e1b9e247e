import Deobfuscator.Notice

/-!
A cache of values by version. It holds at most `capacity` of them and evicts in the order of insertion; finding a value
does not change when it leaves.
-/

namespace Deobfuscator

structure Cache (α : Type) where
  capacity : Nat
  capacity_pos : 0 < capacity
  /-- The resident values, oldest first. -/
  entries : List (String × α)

inductive Fetched (ε α : Type) where
  | resident (value : α)
  | failed (notices : List Notice) (fault : ε)
  /-- The value was built, and these versions had to leave, in this order. -/
  | stored (notices : List Notice) (value : α) (evicted : List String)

def Fetched.result {ε α : Type} : Fetched ε α → Except ε α
  | .resident value => .ok value
  | .failed _ fault => .error fault
  | .stored _ value _ => .ok value

/-- The notices of a fetch: it announces a build before and an eviction after it. -/
def Fetched.notices {ε α : Type} (version : String) : Fetched ε α → List Notice
  | .resident _ => []
  | .failed notices _ => .loading version :: notices
  | .stored notices _ evicted => .loading version :: notices ++ evicted.map .evicted

/-- The value was not found, so its build was tried. -/
def Fetched.wasBuilt {ε α : Type} : Fetched ε α → Bool
  | .resident _ => false
  | .failed .. | .stored .. => true

namespace Cache

variable {α ε : Type}

def defaultCapacity : Nat := 100

def withCapacity (capacity : Nat) (positive : 0 < capacity) : Cache α := ⟨capacity, positive, []⟩

/-- An empty cache, if the capacity is at least one. -/
def ofCapacity (capacity : Int) : Except Fault (Cache α) :=
  if positive : 0 < capacity.toNat then .ok (withCapacity capacity.toNat positive) else .error (.badCapacity capacity)

def versions (cache : Cache α) : List String := cache.entries.map (·.1)

def contains (cache : Cache α) (version : String) : Bool := cache.versions.contains version

def get? (cache : Cache α) (version : String) : Option α := cache.entries.lookup version

/-- Gives a version a value, in the place of the one it has; a version without one comes after all others. -/
def assign (version : String) (value : α) : List (String × α) → List (String × α)
  | [] => [(version, value)]
  | (other, old) :: rest =>
    if other = version then (other, value) :: rest else (other, old) :: assign version value rest

/-- Takes the oldest entry away for as long as there are more than `capacity`: the entries that stay, and the versions
that leave, in this order. -/
def shrink (capacity : Nat) : List (String × α) → List (String × α) × List String
  | [] => ([], [])
  | oldest :: rest =>
    if capacity < (oldest :: rest).length then
      let (kept, evicted) := shrink capacity rest
      (kept, oldest.1 :: evicted)
    else (oldest :: rest, [])

/-- Adds a value, and gives the versions that leave for it. -/
def insert (cache : Cache α) (version : String) (value : α) : Cache α × List String :=
  let (kept, evicted) := shrink cache.capacity (assign version value cache.entries)
  ({ cache with entries := kept }, evicted)

/-- Finds the value of a version, or builds and adds it. A build that fails changes nothing. -/
def fetch (cache : Cache α) (version : String) (build : Unit → Attempt ε α) : Cache α × Fetched ε α :=
  match cache.get? version with
  | some value => (cache, .resident value)
  | none =>
    match build () with
    | ⟨notices, .error fault⟩ => (cache, .failed notices fault)
    | ⟨notices, .ok value⟩ =>
      let (after, evicted) := cache.insert version value
      (after, .stored notices value evicted)

end Cache

end Deobfuscator
