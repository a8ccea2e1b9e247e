import Deobfuscator.Proofs.TableMerge

/-! Tables in blocks, each a header and the lines of its class. The order of the
blocks of a table does not matter: what a block puts into the index stands under
its own two names, so blocks whose names differ do not meet there. -/

namespace Deobfuscator.Proofs.ClassBlocks
open Mapping NameIndex NameIndexContents TableReading TableSegments TableMerge

/-- A line that may stand below a header. -/
def IsInside (raw : List Char) : Prop := isSilent raw = true ∨ isIndented raw = true

instance (raw : List Char) : Decidable (IsInside raw) := inferInstanceAs (Decidable (_ ∨ _))

/-- A header, and after it lines that are blank, comments or indented. -/
structure ClassBlock where
  header : List Char
  plain : String
  obfuscated : String
  heads : Heads header plain.toList obfuscated.toList
  rest : List (List Char)
  inside : ∀ raw ∈ rest, IsInside raw

theorem IsInside.not_isHeader {raw : List Char} (inside : IsInside raw) : ¬ IsHeader raw := by
  rintro ⟨_, _, heads⟩
  rcases inside with silent | indented
  · exact Bool.false_ne_true (heads.shown.symm.trans silent)
  · exact Bool.false_ne_true (heads.outdented.symm.trans indented)

/-- Entries of one class alone, and no header. -/
def IsMember (owner : String) : Entry → Prop
  | .header _ => False
  | .method entry => entry.owner = owner
  | .field entry => entry.owner = owner

variable {owner : String} {entries : List Entry}

theorem lineEffect_isMember {line : Nat} {raw : List Char} {entry : Entry} (inside : IsInside raw)
    (effect : lineEffect (some owner) line raw = .event (.entry entry)) : IsMember owner entry := by
  cases lineEffect_iff_does.mp effect with
  | header shown outdented => exact absurd inside (by simp [IsInside, shown, outdented])
  | method => rfl
  | field => rfl

theorem readFrom_isMember {lines : List (List Char)} (inside : ∀ raw ∈ lines, IsInside raw) (line : Nat) :
    ∀ entry ∈ (readFrom (some owner) line lines).entries, IsMember owner entry := by
  refine readFrom_entries (fun current _ => current = some owner) rfl ?_ ?_
  · rintro _ line raw member rfl
    exact ownerNext_other (inside raw member).not_isHeader
  · rintro _ line raw member rfl entry effect
    exact lineEffect_isMember (inside raw member) effect

theorem classEntries_of_members (members : ∀ entry ∈ entries, IsMember owner entry) : classEntries entries = [] := by
  rw [classEntries, List.filterMap_eq_nil_iff]
  intro entry member
  have valid := members entry member
  cases entry with
  | header entry => exact valid.elim
  | method entry => rfl
  | field entry => rfl

theorem owner_of_members (members : ∀ entry ∈ entries, IsMember owner entry) :
    ∀ method ∈ methodEntries entries, method.owner = owner := by
  intro method member
  obtain ⟨entry, inside, found⟩ := List.mem_filterMap.mp member
  have valid := members entry inside
  cases entry with
  | header entry => cases found
  | method entry => cases found; exact valid
  | field entry => cases found

namespace ClassBlock

def lines (block : ClassBlock) : List (List Char) := block.header :: block.rest

/-- What a block alone puts into an index. -/
def index (block : ClassBlock) : NameIndex := ofEntries (read block.lines).entries

def IsReadable (block : ClassBlock) : Prop := (read block.lines).fault = none

variable (block : ClassBlock)

theorem entries_lines : ∃ members, (∀ entry ∈ members, IsMember block.plain entry) ∧
    (read block.lines).entries = .header ⟨block.plain, block.obfuscated, 1⟩ :: members := by
  refine ⟨_, readFrom_isMember block.inside 2, ?_⟩
  rw [Mapping.read, lines, readFrom, lineEffect_heads block.heads, String.ofList_toList, String.ofList_toList]
  rfl

theorem index_classes (obfuscated : String) :
    block.index.classes[obfuscated]? = if block.obfuscated = obfuscated then some block.plain else none := by
  obtain ⟨members, valid, entries⟩ := block.entries_lines
  have headers : classEntries (.header ⟨block.plain, block.obfuscated, 1⟩ :: members) =
      [⟨block.plain, block.obfuscated, 1⟩] := congrArg (_ :: ·) (classEntries_of_members valid)
  rw [index, (ofEntries_reflects _).classes, entries, lastHeader?, headers]
  by_cases same : block.obfuscated = obfuscated <;> simp [same]

theorem index_candidates (other : block.plain ≠ owner) (obfuscated : String) :
    block.index.candidates owner obfuscated = [] := by
  obtain ⟨members, valid, entries⟩ := block.entries_lines
  have methods : methodEntries (.header ⟨block.plain, block.obfuscated, 1⟩ :: members) = methodEntries members := rfl
  rw [index, candidates_reflects (ofEntries_reflects _), entries, candidatesOf, methodsOf, methods,
    List.map_eq_nil_iff, List.filter_eq_nil_iff]
  intro method member
  simp [owner_of_members valid method member, other]

theorem starts (more : List (List Char)) : StartsOutdented (block.lines ++ more) := by
  simp [StartsOutdented, lines, block.heads.shown, block.heads.outdented]

end ClassBlock

/-- The table that some blocks make. -/
def tableOf (blocks : List ClassBlock) : List (List Char) := blocks.flatMap ClassBlock.lines

theorem tableOf_starts (blocks : List ClassBlock) : StartsOutdented (tableOf blocks) := by
  cases blocks with
  | nil => rintro raw ⟨⟩
  | cons block rest => exact block.starts (tableOf rest)

variable {blocks others : List ClassBlock}

/-- A table in blocks can be read if each of them can be read alone. -/
theorem fault_tableOf_iff : (read (tableOf blocks)).fault = none ↔ ∀ block ∈ blocks, block.IsReadable := by
  induction blocks with
  | nil => simp [tableOf, Mapping.read, readFrom]
  | cons block rest ih =>
    rw [tableOf, List.flatMap_cons, ← tableOf, fault_append_iff (.inl (tableOf_starts rest)), ih, List.forall_mem_cons]
    rfl

/-- The index of some blocks. -/
def indexOf (blocks : List ClassBlock) : NameIndex := ofEntries (read (tableOf blocks)).entries

theorem indexOf_cons {block : ClassBlock} (readable : block.IsReadable) :
    IsMerge block.index (indexOf blocks) (indexOf (block :: blocks)) :=
  ofEntries_read_append (.inl (tableOf_starts blocks)) readable

/-- An index is known by its classes and by the candidates for every method. -/
theorem indexOf_eq (classes : (indexOf blocks).classes = (indexOf others).classes)
    (candidates : ∀ owner obfuscated,
      (indexOf blocks).candidates owner obfuscated = (indexOf others).candidates owner obfuscated) :
    indexOf blocks = indexOf others := by
  have first : Reflects (indexOf blocks) _ := ofEntries_reflects _
  have second : Reflects (indexOf others) _ := ofEntries_reflects _
  have methods (key : MethodKey) : (indexOf blocks).methods[key]? = (indexOf others).methods[key]? := by
    have same := candidates key.1 key.2
    rw [candidates_reflects first, candidates_reflects second] at same
    rw [first.methods, second.methods, same]
  rw [NameIndex.mk.injEq]
  exact ⟨classes, Std.ExtTreeMap.ext_getElem? methods⟩

theorem indexOf_congr {block : ClassBlock} (readable : block.IsReadable) (same : indexOf blocks = indexOf others) :
    indexOf (block :: blocks) = indexOf (block :: others) := by
  have first : IsMerge block.index (indexOf blocks) (indexOf (block :: blocks)) := indexOf_cons readable
  have second : IsMerge block.index (indexOf others) (indexOf (block :: others)) := indexOf_cons readable
  rw [same] at first
  refine indexOf_eq (first.classes.trans second.classes.symm) ?_
  intro owner obfuscated
  rw [first.candidates, second.candidates]

/-- Two blocks with different names put nothing in the same place. -/
theorem indexOf_swap {first second : ClassBlock} (readable : first.IsReadable) (readable' : second.IsReadable)
    (plain : first.plain ≠ second.plain) (obfuscated : first.obfuscated ≠ second.obfuscated) :
    indexOf (first :: second :: blocks) = indexOf (second :: first :: blocks) := by
  have ahead : IsMerge first.index (indexOf (second :: blocks)) _ := indexOf_cons readable
  have ahead' : IsMerge second.index (indexOf (first :: blocks)) _ := indexOf_cons readable'
  have behind : IsMerge first.index (indexOf blocks) _ := indexOf_cons readable
  have behind' : IsMerge second.index (indexOf blocks) _ := indexOf_cons readable'
  refine indexOf_eq ?_ ?_
  · refine Std.ExtTreeMap.ext_getElem? fun {name} => ?_
    rw [ahead.classes, ahead'.classes, behind.classes, behind'.classes]
    simp only [Std.ExtTreeMap.getElem?_union, ClassBlock.index_classes, Option.or_assoc]
    congr 1
    by_cases same : first.obfuscated = name
    · have other : second.obfuscated ≠ name := fun same' => obfuscated (same.trans same'.symm)
      simp [other]
    · simp [same]
  · intro owner name
    rw [ahead.candidates, ahead'.candidates, behind.candidates, behind'.candidates]
    by_cases same : first.plain = owner
    · have other : second.plain ≠ owner := fun same' => plain (same.trans same'.symm)
      rw [second.index_candidates other]
      rfl
    · rw [first.index_candidates same]
      rfl

/-- The order of readable blocks with different names does not show in the index. -/
theorem indexOf_perm (perm : blocks.Perm others) (readable : ∀ block ∈ blocks, block.IsReadable)
    (plains : (blocks.map ClassBlock.plain).Nodup) (obfuscateds : (blocks.map ClassBlock.obfuscated).Nodup) :
    indexOf blocks = indexOf others := by
  induction perm with
  | nil => rfl
  | cons block perm ih =>
    obtain ⟨first, rest⟩ := List.forall_mem_cons.mp readable
    exact indexOf_congr first (ih rest plains.of_cons obfuscateds.of_cons)
  | swap first second rest =>
    obtain ⟨first_readable, others_readable⟩ := List.forall_mem_cons.mp readable
    obtain ⟨second_readable, _⟩ := List.forall_mem_cons.mp others_readable
    refine indexOf_swap first_readable second_readable ?_ ?_
    · rintro same
      simp [same] at plains
    · rintro same
      simp [same] at obfuscateds
  | trans perm perm' ih ih' =>
    have readable' := fun block member => readable block (perm.mem_iff.mpr member)
    have plains' := (perm.map ClassBlock.plain).nodup_iff.mp plains
    have obfuscateds' := (perm.map ClassBlock.obfuscated).nodup_iff.mp obfuscateds
    exact (ih readable plains obfuscateds).trans (ih' readable' plains' obfuscateds')

/-- Blocks whose plain names are different, and whose obfuscated names are, can be
put into any order: either the table loads in neither, or it loads in both, finds the
same for every query and counts the same. -/
theorem ofLines_perm (blocks others : List ClassBlock) (perm : blocks.Perm others)
    (plains : (blocks.map ClassBlock.plain).Nodup) (obfuscateds : (blocks.map ClassBlock.obfuscated).Nodup) :
    ((∃ fault, (ofLines (tableOf blocks)).result = .error fault) ∧
      ∃ fault, (ofLines (tableOf others)).result = .error fault) ∨
    ∃ index index', (ofLines (tableOf blocks)).result = .ok index ∧ (ofLines (tableOf others)).result = .ok index' ∧
      (∀ target, index.find target = index'.find target) ∧ index.classCount = index'.classCount ∧
      index.methodCount = index'.methodCount ∧ index.candidateCount = index'.candidateCount := by
  have same_readable : (∀ block ∈ blocks, block.IsReadable) ↔ ∀ block ∈ others, block.IsReadable := by
    simp only [perm.mem_iff]
  by_cases readable : ∀ block ∈ blocks, block.IsReadable
  · have loaded := ofLines_ok_iff.mpr ⟨fault_tableOf_iff.mpr readable, rfl⟩
    have loaded' := ofLines_ok_iff.mpr ⟨fault_tableOf_iff.mpr (same_readable.mp readable), rfl⟩
    have same : indexOf blocks = indexOf others := indexOf_perm perm readable plains obfuscateds
    refine .inr ⟨indexOf blocks, indexOf others, loaded, loaded', ?_⟩
    rw [same]
    exact ⟨fun target => rfl, rfl, rfl, rfl⟩
  · refine .inl ⟨fails_iff.mpr ?_, fails_iff.mpr ?_⟩
    · rwa [ne_eq, fault_tableOf_iff]
    · rwa [ne_eq, fault_tableOf_iff, ← same_readable]

/-- Two classes that have each other's names. -/
theorem ofLines_perm_crossed :
    ∃ (first second : ClassBlock) (index index' : NameIndex),
      tableOf [first, second] =
        ["a -> b:", "", "  int m() -> x", "b -> a:", "# later", "  1:2:int n() -> x"].map (·.toList) ∧
      [first, second].Perm [second, first] ∧ ([first, second].map ClassBlock.plain).Nodup ∧
      ([first, second].map ClassBlock.obfuscated).Nodup ∧
      (ofLines (tableOf [first, second])).result = .ok index ∧
      (ofLines (tableOf [second, first])).result = .ok index' ∧
      (∀ target, index.find target = index'.find target) ∧ index'.find ⟨"b", some "x", none⟩ = ⟨"a", ["m"]⟩ := by
  let first : ClassBlock := {
    header := "a -> b:".toList
    plain := "a"
    obfuscated := "b"
    heads := ⟨⟨by decide, by decide, by decide⟩, by decide, by decide⟩
    rest := ["", "  int m() -> x"].map (·.toList)
    inside := by decide }
  let second : ClassBlock := {
    header := "b -> a:".toList
    plain := "b"
    obfuscated := "a"
    heads := ⟨⟨by decide, by decide, by decide⟩, by decide, by decide⟩
    rest := ["# later", "  1:2:int n() -> x"].map (·.toList)
    inside := by decide }
  have perm : [first, second].Perm [second, first] := .swap second first []
  have plains : ([first, second].map ClassBlock.plain).Nodup := by decide
  have obfuscateds : ([first, second].map ClassBlock.obfuscated).Nodup := by decide
  have readable : (read (tableOf [first, second])).fault = none := by decide
  have known : ∀ index, (ofLines (tableOf [first, second])).result = .ok index →
      index.find ⟨"b", some "x", none⟩ = ⟨"a", ["m"]⟩ := by
    intro index loaded
    obtain ⟨_, rfl⟩ := ofLines_ok_iff.mp loaded
    have reflects := ofEntries_reflects (read (tableOf [first, second])).entries
    rw [NameIndex.find, plainClass_reflects reflects]
    dsimp only
    rw [plainMethods_reflects reflects]
    decide
  rcases ofLines_perm [first, second] [second, first] perm plains obfuscateds with ⟨failed, _⟩ | found
  · exact absurd readable (fails_iff.mp failed)
  · obtain ⟨index, index', loaded, loaded', same, _⟩ := found
    refine ⟨first, second, index, index', by decide, perm, plains, obfuscateds, loaded, loaded', same, ?_⟩
    rw [← same]
    exact known index loaded

end Deobfuscator.Proofs.ClassBlocks
