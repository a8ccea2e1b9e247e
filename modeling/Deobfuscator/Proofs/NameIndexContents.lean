import Deobfuscator.NameIndex

/-! An index is determined by the entries it was built from: each class keeps the
plain name in its last header, and each method all its candidates in table order.
Lookups are stated over the entries alone, without either of the two maps. -/

namespace Deobfuscator.Proofs.NameIndexContents
open Mapping NameIndex

def classEntries (entries : List Entry) : List ClassEntry :=
  entries.filterMap fun | .header entry => some entry | _ => none

def methodEntries (entries : List Entry) : List MethodEntry :=
  entries.filterMap fun | .method entry => some entry | _ => none

/-- The last header that gives a class this obfuscated name. -/
def lastHeader? (entries : List Entry) (obfuscated : String) : Option ClassEntry :=
  ((classEntries entries).filter fun header => header.obfuscated = obfuscated).getLast?

/-- The methods of a class that were given one obfuscated name, in table order. -/
def methodsOf (entries : List Entry) (key : MethodKey) : List MethodEntry :=
  (methodEntries entries).filter fun method => method.owner = key.1 ∧ method.obfuscated = key.2

/-- What an index keeps of a method. -/
def candidate (method : MethodEntry) : Candidate := ⟨method.first, method.last, method.plain⟩

def candidatesOf (entries : List Entry) (key : MethodKey) : List Candidate :=
  (methodsOf entries key).map candidate

theorem classEntries_append (front back : List Entry) :
    classEntries (front ++ back) = classEntries front ++ classEntries back :=
  List.filterMap_append

theorem methodEntries_append (front back : List Entry) :
    methodEntries (front ++ back) = methodEntries front ++ methodEntries back :=
  List.filterMap_append

theorem candidatesOf_append (front back : List Entry) (key : MethodKey) :
    candidatesOf (front ++ back) key = candidatesOf front key ++ candidatesOf back key := by
  simp only [candidatesOf, methodsOf, methodEntries_append, List.filter_append, List.map_append]

/-- Both maps of an index say what the entries say. A method without candidates
has no place in the index at all, so places can be counted. -/
structure Reflects (index : NameIndex) (entries : List Entry) : Prop where
  classes : ∀ obfuscated, index.classes[obfuscated]? = (lastHeader? entries obfuscated).map (·.plain)
  methods : ∀ key : MethodKey, index.methods[key]? =
    if candidatesOf entries key = [] then none else some (candidatesOf entries key)

private theorem lastHeader?_named (entries : List Entry) (header : ClassEntry) (obfuscated : String) :
    lastHeader? (entries ++ [.header header]) obfuscated =
      if header.obfuscated = obfuscated then some header else lastHeader? entries obfuscated := by
  rw [lastHeader?, classEntries_append, List.filter_append]
  by_cases same : header.obfuscated = obfuscated
  · simp [classEntries, same]
  · simp [classEntries, lastHeader?, same]

private theorem lastHeader?_other (entries : List Entry) (entry : Entry) (obfuscated : String)
    (other : classEntries [entry] = []) : lastHeader? (entries ++ [entry]) obfuscated = lastHeader? entries obfuscated := by
  rw [lastHeader?, classEntries_append, other, List.append_nil, lastHeader?]

private theorem candidatesOf_named (entries : List Entry) (method : MethodEntry) (key : MethodKey) :
    candidatesOf (entries ++ [.method method]) key =
      if (method.owner, method.obfuscated) = key then candidatesOf entries key ++ [candidate method]
      else candidatesOf entries key := by
  rw [candidatesOf_append]
  obtain ⟨owner, obfuscated⟩ := key
  by_cases same : method.owner = owner ∧ method.obfuscated = obfuscated
  · simp [candidatesOf, methodsOf, methodEntries, same]
  · simp [candidatesOf, methodsOf, methodEntries, same]

private theorem candidatesOf_other (entries : List Entry) (entry : Entry) (key : MethodKey)
    (other : methodEntries [entry] = []) : candidatesOf (entries ++ [entry]) key = candidatesOf entries key := by
  rw [candidatesOf, methodsOf, methodEntries_append, other, List.append_nil, candidatesOf, methodsOf]

theorem empty_reflects : Reflects NameIndex.empty [] := by
  refine ⟨?_, ?_⟩
  · intro obfuscated
    exact Std.ExtTreeMap.getElem?_empty
  · intro key
    exact Std.ExtTreeMap.getElem?_empty

/-- One more entry keeps an index in step with its table. A header overwrites in
one map, a method appends in the other, and a field leaves both alone. -/
theorem Reflects.add {index : NameIndex} {entries : List Entry} (reflects : Reflects index entries) (entry : Entry) :
    Reflects (index.add entry) (entries ++ [entry]) := by
  cases entry with
  | header header =>
    refine ⟨?_, ?_⟩
    · intro obfuscated
      rw [lastHeader?_named]
      simp only [NameIndex.add, nameClass, Std.ExtTreeMap.getElem?_insert, Std.compare_eq_iff_eq, reflects.classes]
      split <;> rfl
    · intro key
      rw [candidatesOf_other entries _ key rfl]
      exact reflects.methods key
  | method method =>
    refine ⟨?_, ?_⟩
    · intro obfuscated
      rw [lastHeader?_other entries _ obfuscated rfl]
      exact reflects.classes obfuscated
    · intro key
      rw [candidatesOf_named]
      simp only [NameIndex.add, addCandidate, Std.ExtTreeMap.getElem?_alter, Std.compare_eq_iff_eq, reflects.methods]
      by_cases same : (method.owner, method.obfuscated) = key
      · subst same
        by_cases none : candidatesOf entries (method.owner, method.obfuscated) = []
        · simp [none, candidate]
        · simp [none, candidate]
      · simp only [same, ↓reduceIte]
  | field field =>
    refine ⟨?_, ?_⟩
    · intro obfuscated
      rw [lastHeader?_other entries _ obfuscated rfl]
      exact reflects.classes obfuscated
    · intro key
      rw [candidatesOf_other entries _ key rfl]
      exact reflects.methods key

theorem Reflects.addAll {index : NameIndex} {entries : List Entry} (reflects : Reflects index entries)
    (more : List Entry) : Reflects (more.foldl NameIndex.add index) (entries ++ more) := by
  induction more generalizing index entries with
  | nil => simpa using reflects
  | cons entry more ih => simpa using ih (reflects.add entry)

theorem ofEntries_reflects (entries : List Entry) : Reflects (ofEntries entries) entries :=
  empty_reflects.addAll entries

/-- The plain name in the last header for a class; a class without a header keeps its name. -/
def ownerNamed (entries : List Entry) (className : String) : String :=
  ((lastHeader? entries className).map (·.plain)).getD className

/-- A method has no line information, or its range holds the line. -/
def Covers (method : MethodEntry) (line : Int) : Prop :=
  method.last = 0 ∨ method.first ≤ line ∧ line ≤ method.last

instance (method : MethodEntry) (line : Int) : Decidable (Covers method line) :=
  inferInstanceAs (Decidable (_ ∨ _))

/-- The plain names of the methods of a class that have an obfuscated name and
cover a line, in table order and as often as the table repeats them. -/
def namesAt (entries : List Entry) (owner obfuscated : String) (line : Int) : List String :=
  ((methodEntries entries).filter fun method =>
    method.owner = owner ∧ method.obfuscated = obfuscated ∧ Covers method line).map (·.plain)

theorem plainClass_reflects {index : NameIndex} {entries : List Entry} (reflects : Reflects index entries)
    (className : String) : index.plainClass className = ownerNamed entries className := by
  rw [plainClass, reflects.classes, ownerNamed]

theorem candidates_reflects {index : NameIndex} {entries : List Entry} (reflects : Reflects index entries)
    (owner obfuscated : String) : index.candidates owner obfuscated = candidatesOf entries (owner, obfuscated) := by
  rw [candidates, reflects.methods]
  split
  next none => rw [none]; rfl
  next => rfl

private theorem covers_candidate (method : MethodEntry) (line : Int) :
    (candidate method).covers line = decide (Covers method line) := by
  rw [Bool.eq_iff_iff, decide_eq_true_iff]
  simp only [Candidate.covers, Covers, Bool.or_eq_true, Bool.and_eq_true, decide_eq_true_eq, beq_iff_eq]
  exact or_comm

private theorem covered_names (entries : List Entry) (owner obfuscated : String) (line : Int) :
    ((candidatesOf entries (owner, obfuscated)).filter (·.covers line)).map (·.plain) =
      namesAt entries owner obfuscated line := by
  have plain : (fun found : Candidate => found.plain) ∘ candidate = fun method => method.plain := rfl
  have covered : (fun found : Candidate => found.covers line) ∘ candidate = fun method => decide (Covers method line) :=
    funext fun method => covers_candidate method line
  rw [candidatesOf, List.filter_map, List.map_map, plain, covered, methodsOf, List.filter_filter, namesAt]
  congr 2
  funext method
  simp only [Bool.decide_and, Bool.and_comm, Bool.and_assoc]

theorem plainMethods_reflects {index : NameIndex} {entries : List Entry} (reflects : Reflects index entries)
    (owner obfuscated : String) (line : Int) :
    index.plainMethods owner obfuscated line =
      if namesAt entries owner obfuscated line = [] then [obfuscated] else namesAt entries owner obfuscated line := by
  rw [plainMethods, candidates_reflects reflects, ← covered_names]
  split
  next none => rw [none]; rfl
  next found => rw [if_neg (by simpa using found)]

/-- A lookup in the index of a table gives the name in the last header for the
class and the names of the methods that fit, whatever order headers, methods and
fields came in. A query without a line asks about line minus one. -/
theorem find_ofEntries (entries : List Entry) (className : String) (line : Option Int) :
    (ofEntries entries).find ⟨className, none, line⟩ = ⟨ownerNamed entries className, []⟩ ∧
    ∀ method, (ofEntries entries).find ⟨className, some method, line⟩ =
      ⟨ownerNamed entries className,
        let names := namesAt entries (ownerNamed entries className) method (line.getD (-1))
        if names = [] then [method] else names⟩ := by
  have reflects := ofEntries_reflects entries
  refine ⟨?_, ?_⟩
  · simp only [find, plainClass_reflects reflects]
  · intro method
    simp only [find, plainClass_reflects reflects, plainMethods_reflects reflects]
    rfl

end Deobfuscator.Proofs.NameIndexContents
