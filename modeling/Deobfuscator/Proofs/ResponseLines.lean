import Deobfuscator.Proofs.LineBreaks
import Deobfuscator.Proofs.NameIndexContents
import Deobfuscator.Proofs.PlainTemplates
import Deobfuscator.Proofs.RequestOutcomes
import Deobfuscator.Proofs.ResolverTransparency

/-! A response is one line, whatever the request, the files and the requests before
it. Names come from words of the request or of a table; everything else that a client
is told is quoted, or is part of a path without line breaks. -/

namespace Deobfuscator.Proofs.ResponseLines
open Template (Memory)
open Text Mapping TextCuts CacheFetch TableReading NameIndexContents PlainTemplates RequestOutcomes
  ResolverTransparency LineBreaks

/-- An index of a table in which all names are words. -/
def IsClean (index : NameIndex) : Prop :=
  ∃ entries : List Entry, index = .ofEntries entries ∧ ∀ entry ∈ entries, IsNamed entry

theorem load_clean {archive : Archive} {files : FileSystem} {memory : Memory} {version : String} {index : NameIndex}
    (loaded : (archive.load files memory version).result = .ok index) : IsClean index := by
  obtain ⟨lines, rfl⟩ := load_ok loaded
  exact ⟨_, rfl, readFrom_isNamed⟩

/-- A resolver of an archive whose cache holds clean indexes only. -/
structure IsSound (archive : Archive) (resolver : Resolver) : Prop where
  same : resolver.archive = archive
  clean : ∀ entry ∈ resolver.cache.entries, IsClean entry.2

variable {archive : Archive} {resolver : Resolver}

theorem fresh_isSound (capacity : Nat) (positive : 0 < capacity) : IsSound archive (fresh archive capacity positive) :=
  ⟨rfl, fun _ member => absurd member List.not_mem_nil⟩

theorem IsSound.indexOf (sound : IsSound archive resolver) (files : FileSystem) (memory : Memory) (version : String) :
    IsSound archive (resolver.indexOf files memory version).1 ∧
      ∀ index, (resolver.indexOf files memory version).2.result = .ok index → IsClean index := by
  obtain ⟨rfl, clean⟩ := sound
  obtain ⟨kept, given⟩ := fetch_forall (P := fun _ => IsClean) resolver.cache version
    (fun _ => resolver.archive.load files memory version) clean fun _ loaded => load_clean loaded
  exact ⟨⟨rfl, kept⟩, given⟩

theorem IsSound.serve (sound : IsSound archive resolver) (files : FileSystem) (call : Call) :
    IsSound archive (serve files resolver call) := by
  rw [serve_eq]
  cases call.query? with
  | none => exact sound
  | some query => exact (sound.indexOf files call.memory query.version).1

/-- A resolver after calls, each with the files as they were then. -/
def serveEach (resolver : Resolver) (history : List (FileSystem × Call)) : Resolver :=
  history.foldl (fun resolver step => serve step.1 resolver step.2) resolver

theorem IsSound.serveEach (sound : IsSound archive resolver) (history : List (FileSystem × Call)) :
    IsSound archive (serveEach resolver history) := by
  induction history generalizing resolver with
  | nil => exact sound
  | cons step history ih => exact ih (sound.serve step.1 step.2)

/-- What a target has if its names are words. -/
structure IsNamedTarget (target : Target) : Prop where
  className : IsWord target.className.toList
  methodName : ∀ name ∈ target.methodName, IsWord name.toList

theorem ownerNamed_isWord {entries : List Entry} (named : ∀ entry ∈ entries, IsNamed entry) {className : String}
    (word : IsWord className.toList) : IsWord (ownerNamed entries className).toList := by
  rw [ownerNamed]
  cases last : lastHeader? entries className with
  | none => exact word
  | some header =>
    have member := List.mem_of_getLast? last
    obtain ⟨entry, inside, same⟩ := List.mem_filterMap.mp (List.mem_filter.mp member).1
    cases entry with
    | header found =>
      cases same
      exact named _ inside
    | method found => cases same
    | field found => cases same

theorem namesAt_isWord {entries : List Entry} (named : ∀ entry ∈ entries, IsNamed entry)
    (owner obfuscated : String) (line : Int) : ∀ name ∈ namesAt entries owner obfuscated line, IsWord name.toList := by
  intro name member
  obtain ⟨method, kept, rfl⟩ := List.mem_map.mp member
  obtain ⟨entry, inside, same⟩ := List.mem_filterMap.mp (List.mem_filter.mp kept).1
  cases entry with
  | header found => cases same
  | method found =>
    cases same
    exact named _ inside
  | field found => cases same

/-- The names in a finding are words, and methods are named if and only if one was
asked for. -/
theorem find_named {index : NameIndex} (clean : IsClean index) {target : Target} (asked : IsNamedTarget target) :
    IsWord (index.find target).className.toList ∧
      (∀ name ∈ (index.find target).methodNames, IsWord name.toList) ∧
      ((index.find target).methodNames = [] ↔ target.methodName = none) := by
  obtain ⟨entries, rfl, named⟩ := clean
  have reflects := ofEntries_reflects entries
  simp only [NameIndex.find, plainClass_reflects reflects, plainMethods_reflects reflects]
  refine ⟨ownerNamed_isWord named asked.className, ?_⟩
  cases method : target.methodName with
  | none => simp
  | some name =>
    have word := asked.methodName name method
    have found := namesAt_isWord named (ownerNamed entries target.className) name target.lineNumber
    dsimp only
    split
    next none => simpa using word
    next some => exact ⟨found, by simp [some]⟩

theorem query_of_read {request : String} {query : Query} (read : Query.read request = .ok query) :
    IsWord query.version.toList ∧ IsNamedTarget query.target ∧
      (query.target.methodName = none ↔ (words request.toList).length = 2) := by
  obtain ⟨version, className, rest, split, version_eq, class_eq, method_eq⟩ := ofWords_ok read
  have word (text : List Char) (member : text ∈ version :: className :: rest) : IsWord text :=
    isWord_of_mem_words (split ▸ member)
  refine ⟨?_, ⟨?_, ?_⟩, ?_⟩
  · rw [version_eq, String.toList_ofList]
    exact word version (by simp)
  · rw [class_eq, String.toList_ofList]
    exact word className (by simp)
  · intro name found
    rw [method_eq, Option.mem_def, Option.map_eq_some_iff] at found
    obtain ⟨text, first, rfl⟩ := found
    rw [String.toList_ofList]
    exact word text (by simp [List.mem_of_head? first])
  · rw [method_eq, split]
    cases rest <;> simp

theorem isLine_pathOf {directory front back version : String} (directory_line : IsLine directory)
    (front_line : IsLine front) (back_line : IsLine back) (front_free : BraceFree front) (back_free : BraceFree back)
    (word : IsWord version.toList) {memory : Memory} {path : SlashPath}
    (located : Archive.pathOf ⟨directory, plain front back⟩ memory version = .ok path) : IsLine path.toString := by
  rw [pathOf_plain front_free back_free] at located
  split at located
  next =>
    cases located
    have name : IsLine (front ++ version ++ back) := by
      rw [isLine_append, isLine_append]
      exact ⟨⟨front_line, unbroken_of_free word.free⟩, back_line⟩
    exact isLine_path (isLine_join (isLine_ofString directory_line) (isLine_ofString name))
  next => cases located

/-- What a client is told of a version that cannot be loaded holds its path at most. -/
theorem bareTexts_of_unloadable {path : String} {found : Lookup} {fault : Fault}
    (unloadable : Unloadable path found fault) : ∀ text ∈ bareTexts fault, text = path := by
  cases unloadable with
  | absent refusal absence => simp [bareTexts]
  | refused refusal unknown => simp [bareTexts]
  | unnamed => simp [bareTexts]
  | closed refusal => simp [bareTexts]
  | line stopped => obtain ⟨_, _, rfl⟩ | ⟨_, _, rfl⟩ | ⟨_, rfl⟩ := read_fault_cases stopped <;> simp [bareTexts]
  | malformed cause readable spanned => simp [bareTexts]
  | failing bytes refusal readable decoded => simp [bareTexts]

theorem bareTexts_of_unread {request : String} {fault : Fault} (unread : Query.read request = .error fault) :
    bareTexts fault = [] := by
  obtain ⟨_, rfl⟩ | ⟨_, _, _, word, _, _, refused⟩ := ofWords_error_iff.mp unread
  · rfl
  · obtain ⟨_, rfl⟩ | ⟨_, _, rfl⟩ := readLine_error_iff.mp refused <;> rfl

/-- The line sent for a request: the response, or the failure that ends it without one. -/
theorem response_eq (resolver : Resolver) (files : FileSystem) (memory : Memory) (request : String) :
    Connection.response (resolver.respondOrFail files memory request).2 =
      match (resolver.respond files memory request).2.result with
      | .ok response => response
      | .error fault => fault.failure.response := by
  change Connection.response ⟨_, (resolver.respond files memory request).2.result.mapError Fault.failure⟩ = _
  rw [Connection.response]
  cases (resolver.respond files memory request).2.result <;> rfl

theorem response_cases {directory front back : String} (directory_line : IsLine directory)
    (front_line : IsLine front) (back_line : IsLine back) (front_free : BraceFree front) (back_free : BraceFree back)
    (sound : IsSound ⟨directory, plain front back⟩ resolver) (files : FileSystem) (memory : Memory) (request : String) :
    (∃ fault : Fault, Connection.response (resolver.respondOrFail files memory request).2 = fault.failure.response ∧
      ∀ text ∈ bareTexts fault, IsLine text) ∨
    ∃ query index, Query.read request = .ok query ∧ IsClean index ∧
      Connection.response (resolver.respondOrFail files memory request).2 = (index.find query.target).response := by
  rw [response_eq]
  have ends := respond_ends resolver files memory request
  generalize (resolver.respond files memory request).2.result = result at ends
  -- A fault of a version is told in the same words whether it escapes or not.
  have told {query : Query} {fault : Fault} (read : Query.read request = .ok query)
      (failed : (resolver.indexOf files memory query.version).2.result = .error fault) :
      ∀ text ∈ bareTexts fault, IsLine text := by
    obtain ⟨_, failed⟩ := indexOf_error_iff.mp failed
    rw [sound.same] at failed
    rcases load_error_iff.mp failed with unlocated | ⟨path, located, unloadable⟩
    · rw [pathOf_plain_fault front_free back_free unlocated]
      simp [bareTexts]
    · intro text bare
      rw [bareTexts_of_unloadable unloadable text bare]
      exact isLine_pathOf directory_line front_line back_line front_free back_free (query_of_read read).1 located
  cases ends with
  | unread unread malformed => exact .inl ⟨_, rfl, by simp [bareTexts_of_unread unread]⟩
  | stuck unread other => exact .inl ⟨_, rfl, by simp [bareTexts_of_unread unread]⟩
  | found read got => exact .inr ⟨_, _, read, (sound.indexOf files memory _).2 _ got, rfl⟩
  | failed read failed failure => exact .inl ⟨_, rfl, told read failed⟩
  | escaped read failed other => exact .inl ⟨_, rfl, told read failed⟩

theorem toList_names (names : List String) : (",".intercalate names).toList = joined ',' (names.map String.toList) :=
  String.toList_intercalate

theorem names_free {names : List String} (named : ∀ name ∈ names, IsWord name.toList) :
    BlankFree (",".intercalate names).toList := by
  intro c inside
  rw [toList_names] at inside
  rcases mem_joined inside with rfl | ⟨text, member, inside⟩
  · decide
  · obtain ⟨name, kept, rfl⟩ := List.mem_map.mp member
    exact (named name kept).free c inside

theorem names_eq_empty_iff {names : List String} (named : ∀ name ∈ names, IsWord name.toList) :
    ",".intercalate names = "" ↔ names = [] := by
  rw [← String.toList_eq_nil_iff, toList_names, joined_eq_nil_iff, List.map_eq_nil_iff]
  intro text member
  obtain ⟨name, kept, rfl⟩ := List.mem_map.mp member
  exact (named name kept).some

theorem isLine_finding {finding : Finding} (className : IsWord finding.className.toList)
    (methodNames : ∀ name ∈ finding.methodNames, IsWord name.toList) : IsLine finding.response := by
  rw [Finding.response, isLine_append, isLine_append, isLine_append]
  exact ⟨⟨⟨by decide, unbroken_of_free className.free⟩, by decide⟩, unbroken_of_free (names_free methodNames)⟩

theorem failure_not_found (failure : Failure) (rest : String) : failure.response ≠ "OK: " ++ rest := by
  intro same
  have start := congrArg (·.toList.head?) same
  simp [Failure.response] at start

/-- After any calls, each with files of its own, a request is answered by one line:
also if its fault escapes, and whatever the files hold. A line that starts as a
finding is one: a class in one word and the methods without a blank, which are left
out if and only if the request has two words. -/
theorem response_isLine (directory front back : String) (front_free : BraceFree front) (back_free : BraceFree back)
    (directory_line : IsLine directory) (front_line : IsLine front) (back_line : IsLine back) (capacity : Nat)
    (positive : 0 < capacity) (history : List (FileSystem × Call)) (files : FileSystem) (memory : Memory) (request : String) :
    let resolver := serveEach (fresh ⟨directory, plain front back⟩ capacity positive) history
    let response := Connection.response (resolver.respondOrFail files memory request).2
    IsLine response ∧ ∀ rest, response = "OK: " ++ rest →
      ∃ className methods, rest = className ++ " " ++ methods ∧ IsWord className.toList ∧ BlankFree methods.toList ∧
        (methods = "" ↔ (words request.toList).length = 2) := by
  intro resolver response
  have sound : IsSound ⟨directory, plain front back⟩ resolver := (fresh_isSound capacity positive).serveEach history
  obtain ⟨fault, failed, bare⟩ | ⟨query, index, read, clean, found⟩ :=
    response_cases directory_line front_line back_line front_free back_free sound files memory request
  · change response = _ at failed
    rw [failed]
    exact ⟨isLine_response bare, fun rest started => absurd started (failure_not_found fault.failure rest)⟩
  · obtain ⟨_, asked, two⟩ := query_of_read read
    obtain ⟨className, methodNames, unnamed⟩ := find_named clean asked
    change response = _ at found
    rw [found]
    refine ⟨isLine_finding className methodNames, ?_⟩
    intro rest started
    rw [Finding.response, String.append_assoc, String.append_assoc, String.append_right_inj] at started
    refine ⟨_, _, ?_, className, names_free methodNames, ?_⟩
    · rw [← started, String.append_assoc]
    · rw [names_eq_empty_iff methodNames, unnamed, two]

/-- A request whose words stand on three lines, about a table with a comma in a name,
after calls that met other files. -/
theorem response_isLine_scattered :
    let files : FileSystem := .single "m/v-1.map" (.file (Utf8.encode "x,Y -> c:\r\tint f():1:2 -> m\n".toList))
    let memory : Memory := .constant "0x10"
    let history : List (FileSystem × Call) := [(files, .respond memory "2 c"), (.nothing, .respond memory "1\nc")]
    let resolver := serveEach (fresh ⟨"m", plain "v-" ".map"⟩ 1 Nat.one_pos) history
    let response := Connection.response (resolver.respondOrFail files memory "1\rc\nm 1").2
    BraceFree "v-" ∧ BraceFree ".map" ∧ IsLine "m" ∧ IsLine "v-" ∧ IsLine ".map" ∧ response = "OK: x,Y f" ∧
      IsLine response ∧ ∃ className methods, "x,Y f" = className ++ " " ++ methods ∧ IsWord className.toList ∧
        BlankFree methods.toList ∧ (methods = "" ↔ (words "1\rc\nm 1".toList).length = 2) := by
  intro files memory history resolver response
  have front_free : BraceFree "v-" := by decide
  have back_free : BraceFree ".map" := by decide
  have directory_line : IsLine "m" := by decide
  have front_line : IsLine "v-" := by decide
  have back_line : IsLine ".map" := by decide
  have found : response = "OK: x,Y f" := by decide +kernel
  obtain ⟨line, started⟩ := response_isLine "m" "v-" ".map" front_free back_free directory_line front_line back_line 1
    Nat.one_pos history files memory "1\rc\nm 1"
  exact ⟨front_free, back_free, directory_line, front_line, back_line, found, line, started "x,Y f" found⟩

end Deobfuscator.Proofs.ResponseLines
