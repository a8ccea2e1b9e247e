import Deobfuscator.Proofs.ResponseLines

/-! What a client can tell from a response. Blanks keep its parts apart, for they hold
none, so the class is always told. Commas keep the names of methods apart only while no
name holds one: nothing is escaped, and a comma may stand in a name of a table as in one
of a request. -/

namespace Deobfuscator.Proofs.ResponseDecoding
open Template (Memory)
open Text TextCuts RequestOutcomes ResolverTransparency ResponseLines

/-- The names in the last part of a response, which is empty if there are none. -/
def namesIn (text : List Char) : List String := if text = [] then [] else (pieces ',' text).map String.ofList

/-- A response as a client reads it. -/
def decode (response : String) : Option Finding :=
  match pieces ' ' response.toList with
  | [start, className, methodNames] =>
    if start = "OK:".toList then some ⟨String.ofList className, namesIn methodNames⟩ else none
  | _ => none

def CommaFree (names : List String) : Prop := ∀ name ∈ names, ',' ∉ name.toList

structure IsNamedFinding (finding : Finding) : Prop where
  className : IsWord finding.className.toList
  methodNames : ∀ name ∈ finding.methodNames, IsWord name.toList

/-- What a resolver of some archive comes to for a request, after any calls, each with
files of its own. -/
def IsReturned (finding : Finding) : Prop :=
  ∃ (archive : Archive) (capacity : Nat) (positive : 0 < capacity) (history : List (FileSystem × Call))
    (files : FileSystem) (memory : Memory) (request : String) (query : Query), Query.read request = .ok query ∧
      ((serveEach (fresh archive capacity positive) history).answer files memory query).2.result = .ok (.found finding)

variable {finding other : Finding} {names : List String}

theorem IsReturned.named (returned : IsReturned finding) : IsNamedFinding finding := by
  obtain ⟨archive, capacity, positive, history, files, memory, request, query, read, answered⟩ := returned
  have sound : IsSound archive (serveEach (fresh archive capacity positive) history) :=
    (fresh_isSound capacity positive).serveEach history
  obtain ⟨index, got, rfl⟩ := answerFrom_found answered
  obtain ⟨className, methodNames, _⟩ := find_named ((sound.indexOf files memory _).2 index got) (query_of_read read).2.1
  exact ⟨className, methodNames⟩

theorem not_mem_of_free {text : List Char} (free : BlankFree text) : ' ' ∉ text := by
  intro inside
  exact absurd (free ' ' inside) (by decide)

theorem pieces_response (named : IsNamedFinding finding) : pieces ' ' finding.response.toList =
    ["OK:".toList, finding.className.toList, (",".intercalate finding.methodNames).toList] := by
  have methods := not_mem_of_free (names_free named.methodNames)
  have className := not_mem_of_free named.className.free
  have start : ' ' ∉ "OK:".toList := by decide
  rw [pieces_eq_iff]
  refine ⟨List.cons_ne_nil _ _, ?_, ?_⟩
  · exact List.forall_mem_cons.mpr ⟨start, List.forall_mem_cons.mpr ⟨className, List.forall_mem_singleton.mpr methods⟩⟩
  · simp [Finding.response, joined]

theorem decode_response (named : IsNamedFinding finding) : decode finding.response =
    some ⟨finding.className, namesIn (",".intercalate finding.methodNames).toList⟩ := by
  rw [decode, pieces_response named]
  simp

theorem namesIn_eq_iff (named : ∀ name ∈ names, IsWord name.toList) :
    namesIn (",".intercalate names).toList = names ↔ CommaFree names := by
  -- No names are written as one empty name would be, but a name is a word.
  by_cases empty : names = []
  · subst empty
    simp [namesIn, CommaFree]
  · have some : (",".intercalate names).toList ≠ [] := by
      rw [Ne, String.toList_eq_nil_iff, names_eq_empty_iff named]
      exact empty
    rw [namesIn, if_neg some]
    constructor
    · intro same name member
      rw [← same] at member
      obtain ⟨piece, inside, rfl⟩ := List.mem_map.mp member
      rw [String.toList_ofList]
      exact not_mem_of_mem_pieces inside
    · intro free
      have cut : pieces ',' (",".intercalate names).toList = names.map String.toList := by
        rw [pieces_eq_iff]
        exact ⟨by simpa using empty, List.forall_mem_map.mpr free, (toList_names names).symm⟩
      rw [cut, List.map_map]
      simp

theorem decode_eq_self_iff (named : IsNamedFinding finding) :
    decode finding.response = some finding ↔ CommaFree finding.methodNames := by
  rw [decode_response named, ← namesIn_eq_iff named.methodNames]
  constructor
  · intro same
    exact congrArg Finding.methodNames (Option.some.inj same)
  · intro same
    rw [same]

/-- A client reads the class off a response, and the methods if and only if no comma
stands in a name of one. So two findings with one response have one class, and the same
methods unless a name of one of them holds a comma. -/
theorem response_decodes (finding : Finding) (returned : IsReturned finding) :
    (∃ methodNames, decode finding.response = some ⟨finding.className, methodNames⟩) ∧
    (decode finding.response = some finding ↔ CommaFree finding.methodNames) ∧
    ∀ other, IsReturned other → finding.response = other.response → finding.className = other.className ∧
      (CommaFree finding.methodNames → CommaFree other.methodNames → finding.methodNames = other.methodNames) := by
  have named := returned.named
  refine ⟨⟨_, decode_response named⟩, decode_eq_self_iff named, ?_⟩
  intro other returned' same
  have named' := returned'.named
  have decoded : decode finding.response = decode other.response := congrArg decode same
  refine ⟨?_, ?_⟩
  · rw [decode_response named, decode_response named'] at decoded
    exact (Finding.mk.inj (Option.some.inj decoded)).1
  · intro free free'
    rw [(decode_eq_self_iff named).mpr free, (decode_eq_self_iff named').mpr free'] at decoded
    exact congrArg Finding.methodNames (Option.some.inj decoded)

/-- A class with a comma in its name, and two methods of one name in it, after the table
was read and lost. -/
theorem response_decodes_comma :
    let finding : Finding := ⟨"x,Y", ["f", "g"]⟩
    IsReturned finding ∧ CommaFree finding.methodNames ∧ finding.response = "OK: x,Y f,g" ∧
      decode "OK: x,Y f,g" = some finding ∧
      ∀ other, IsReturned other → other.response = "OK: x,Y f,g" → other.className = "x,Y" ∧
        (CommaFree other.methodNames → other.methodNames = ["f", "g"]) := by
  intro finding
  let table : FileSystem :=
    .single "m/v-1.map" (.file (Utf8.encode "x,Y -> c:\n\tint f() -> m\n\tint g() -> m\n".toList))
  have returned : IsReturned finding :=
    ⟨⟨"m", "v-\x7bversion\x7d.map"⟩, 1, Nat.one_pos, [(table, .respond (.constant "0x10") "1 c")], .nothing,
      .constant "0x20", "1 c m", ⟨"1", ⟨"c", some "m", none⟩⟩, by decide, by decide +kernel⟩
  have free : CommaFree finding.methodNames := by
    simp [CommaFree, finding]
  have response : finding.response = "OK: x,Y f,g" := by decide
  obtain ⟨_, decoded, unique⟩ := response_decodes finding returned
  rw [response] at decoded unique
  refine ⟨returned, free, response, decoded.mpr free, ?_⟩
  intro other returned' same
  obtain ⟨className, methodNames⟩ := unique other returned' same.symm
  exact ⟨className.symm, fun free' => (methodNames free free').symm⟩

/-- One table has two methods of one name, and none of the name that joins theirs. The
responses to requests for these are the same. -/
theorem response_ambiguous :
    let both : Finding := ⟨"c", ["a", "b"]⟩
    let echoed : Finding := ⟨"c", ["a,b"]⟩
    IsReturned both ∧ IsReturned echoed ∧ both.response = echoed.response ∧ both.methodNames ≠ echoed.methodNames ∧
      decode echoed.response = some both := by
  intro both echoed
  have returned (finding : Finding) (request : String) (query : Query) (read : Query.read request = .ok query)
      (answered : ((fresh ⟨"m", "v-\x7bversion\x7d.map"⟩ 1 Nat.one_pos).answer
        (.single "m/v-1.map" (.file (Utf8.encode "c -> c:\n\tint a() -> m\n\tint b() -> m\n".toList)))
        (.constant "0x10") query).2.result = .ok (.found finding)) : IsReturned finding :=
    ⟨_, 1, Nat.one_pos, [], _, _, request, query, read, answered⟩
  have both_returned := returned both "1 c m" ⟨"1", ⟨"c", some "m", none⟩⟩ (by decide) (by decide +kernel)
  have echoed_returned := returned echoed "1 c a,b" ⟨"1", ⟨"c", some "a,b", none⟩⟩ (by decide) (by decide +kernel)
  exact ⟨both_returned, echoed_returned, by decide, by decide, by decide⟩

end Deobfuscator.Proofs.ResponseDecoding
