import Deobfuscator.Connection
import Deobfuscator.Proofs.CacheFetch
import Deobfuscator.Proofs.Numerals
import Deobfuscator.Proofs.TableReading

/-! What a request can come to. Each layer is described by the layer below it: the
words of the request, the cache, the file of the version and the lines of that file. -/

namespace Deobfuscator.Proofs.RequestOutcomes
open Text Mapping CacheFetch Numerals TableReading
open Template (Memory)

theorem result_bind {ε α β : Type} (first : Attempt ε α) (next : α → Attempt ε β) :
    (first >>= next).result = first.result >>= fun value => (next value).result := by
  change (first.bind next).result = _
  rw [Attempt.bind]
  cases first.result <;> rfl

/-- Why what is found under a path gives no index. -/
inductive Unloadable (path : String) : Lookup → Fault → Prop where
  | absent (refusal : Refusal) (absence : refusal.isAbsence = true) :
      Unloadable path (.refused refusal) (.fileNotFound path)
  | refused (refusal : Refusal) (unknown : refusal.isAbsence = false) :
      Unloadable path (.refused refusal) (.pathRefused ⟨path, refusal⟩)
  | unnamed : Unloadable path .embeddedNull (.fileNotFound path)
  | closed (refusal : Refusal) : Unloadable path (.closed refusal) (.unreadable path refusal)
  | line {found : Lookup} {fault : Fault} (stopped : (read (linesOf found)).fault = some fault) :
      Unloadable path found fault
  | malformed {found : Lookup} (cause : Utf8.Fault) (readable : (read (linesOf found)).fault = none)
      (spanned : malformedOf found = some cause) : Unloadable path found (.undecodable path cause)
  | failing (bytes : List UInt8) (refusal : Refusal) (readable : (read (linesOf (.broken bytes refusal))).fault = none)
      (decoded : malformedOf (.broken bytes refusal) = none) :
      Unloadable path (.broken bytes refusal) (.readingFailed refusal)

variable {archive : Archive} {files : FileSystem} {memory : Memory} {version : String} {fault : Fault} {found : Lookup}

/-- There is a plain file, whether it can be read or not. -/
def IsPlain : Lookup → Prop
  | .file _ | .closed _ | .broken .. => True
  | .refused _ | .embeddedNull => False

/-- A fault makes the whole reading fail. -/
def indexed (reading : Reading) : Except Fault NameIndex :=
  match reading.fault with
  | some fault => .error fault
  | none => .ok (.ofEntries reading.entries)

theorem indexed_error_iff {reading : Reading} : indexed reading = .error fault ↔ reading.fault = some fault := by
  rw [indexed]
  cases reading.fault <;> simp

theorem load_result (archive : Archive) (files : FileSystem) (memory : Memory) (version : String) :
    (archive.load files memory version).result = (archive.readVersion files memory version).result >>= indexed := by
  rw [Archive.load, result_bind]
  congr 1
  funext reading
  exact NameIndex.ofReading_result reading

theorem readVersion_located {path : SlashPath} (located : archive.pathOf memory version = .ok path) :
    (archive.readVersion files memory version).result = match files.find path.toString with
      | .refused refusal =>
        .error (if refusal.isAbsence then .fileNotFound path.toString else .pathRefused ⟨path.toString, refusal⟩)
      | .embeddedNull => .error (.fileNotFound path.toString)
      | .file _ | .closed _ | .broken .. => .ok (readPath files path.toString) := by
  rw [Archive.readVersion, result_bind, located]
  dsimp only [Attempt.quiet, bind, Except.bind]
  cases files.find path.toString <;> rfl

theorem load_unlocated (unlocated : archive.pathOf memory version = .error fault) :
    (archive.load files memory version).result = .error fault := by
  rw [load_result, Archive.readVersion, result_bind, unlocated]
  rfl

theorem load_plain {path : SlashPath} (located : archive.pathOf memory version = .ok path)
    (plain : IsPlain (files.find path.toString)) :
    (archive.load files memory version).result = indexed (readPath files path.toString) := by
  rw [load_result, readVersion_located located]
  cases found : files.find path.toString with
  | file bytes => rfl
  | closed refusal => rfl
  | broken bytes refusal => rfl
  | refused refusal => rw [found] at plain; cases plain
  | embeddedNull => rw [found] at plain; cases plain

theorem load_refused {path : SlashPath} {refusal : Refusal} (located : archive.pathOf memory version = .ok path)
    (refused : files.find path.toString = .refused refusal) :
    (archive.load files memory version).result =
      .error (if refusal.isAbsence then .fileNotFound path.toString else .pathRefused ⟨path.toString, refusal⟩) := by
  rw [load_result, readVersion_located located, refused]
  rfl

theorem load_unnamed {path : SlashPath} (located : archive.pathOf memory version = .ok path)
    (unnamed : files.find path.toString = .embeddedNull) :
    (archive.load files memory version).result = .error (.fileNotFound path.toString) := by
  rw [load_result, readVersion_located located, unnamed]
  rfl

/-- Reading what is found ends by the fault of a line, or else by what ends the lines. -/
theorem endingWith_error_iff {reading : Reading} {ending : Option Fault} :
    (reading.endingWith ending).fault = some fault ↔
      reading.fault = some fault ∨ reading.fault = none ∧ ending = some fault := by
  rw [Reading.endingWith]
  cases reading.fault <;> simp

theorem readPath_error_iff {path : String} (opened : files.find path = found) :
    (readPath files path).fault = some fault ↔ (read (linesOf found)).fault = some fault ∨
      (read (linesOf found)).fault = none ∧
        ((∃ cause, malformedOf found = some cause ∧ fault = .undecodable path cause) ∨
          malformedOf found = none ∧ stopOf path found = some fault) := by
  rw [readPath_eq, opened, endingWith_error_iff]
  cases malformedOf found <;> simp [eq_comm]

theorem unloadable_plain_iff {path : String} (plain : IsPlain (files.find path)) :
    Unloadable path (files.find path) fault ↔ (readPath files path).fault = some fault := by
  rw [readPath_error_iff rfl]
  generalize files.find path = found at plain
  constructor
  · intro unloadable
    cases unloadable with
    | absent refusal absence => cases plain
    | refused refusal unknown => cases plain
    | unnamed => cases plain
    | closed refusal => exact .inr ⟨rfl, .inr ⟨rfl, rfl⟩⟩
    | line stopped => exact .inl stopped
    | malformed cause readable spanned => exact .inr ⟨readable, .inl ⟨cause, spanned, rfl⟩⟩
    | failing bytes refusal readable decoded => exact .inr ⟨readable, .inr ⟨decoded, rfl⟩⟩
  · rintro (stopped | ⟨readable, ⟨cause, spanned, rfl⟩ | ⟨decoded, stop⟩⟩)
    · exact .line stopped
    · exact .malformed cause readable spanned
    · cases found with
      | file bytes => cases stop
      | closed refusal => cases stop; exact .closed refusal
      | broken bytes refusal => cases stop; exact .failing bytes refusal readable decoded
      | refused refusal => cases plain
      | embeddedNull => cases plain

theorem unloadable_refused_iff {path : String} {refusal : Refusal} : Unloadable path (.refused refusal) fault ↔
    fault = if refusal.isAbsence then .fileNotFound path else .pathRefused ⟨path, refusal⟩ := by
  constructor
  · intro unloadable
    cases unloadable with
    | absent refusal absence => rw [if_pos absence]
    | refused refusal unknown => rw [unknown]; rfl
    | line stopped => cases stopped
    | malformed cause readable spanned => cases spanned
  · rintro rfl
    cases absence : refusal.isAbsence with
    | true => exact .absent refusal absence
    | false => exact .refused refusal absence

theorem unloadable_unnamed_iff {path : String} : Unloadable path .embeddedNull fault ↔ fault = .fileNotFound path := by
  constructor
  · intro unloadable
    cases unloadable with
    | unnamed => rfl
    | line stopped => cases stopped
    | malformed cause readable spanned => cases spanned
  · rintro rfl
    exact .unnamed

/-- A version cannot be loaded if it has no path, or for what is found under it. -/
theorem load_error_iff : (archive.load files memory version).result = .error fault ↔
    archive.pathOf memory version = .error fault ∨
      ∃ path, archive.pathOf memory version = .ok path ∧ Unloadable path.toString (files.find path.toString) fault := by
  cases located : archive.pathOf memory version with
  | error found => simp [load_unlocated located]
  | ok path =>
    simp only [reduceCtorEq, false_or, Except.ok.injEq, exists_eq_left']
    -- What is a plain file is opened, and the reading decides; the rest is refused before.
    have opened (plain : IsPlain (files.find path.toString)) :
        (archive.load files memory version).result = .error fault ↔
          Unloadable path.toString (files.find path.toString) fault := by
      rw [load_plain located plain, indexed_error_iff, unloadable_plain_iff plain]
    cases found : files.find path.toString with
    | file bytes => exact found ▸ opened (found ▸ trivial)
    | closed refusal => exact found ▸ opened (found ▸ trivial)
    | broken bytes refusal => exact found ▸ opened (found ▸ trivial)
    | refused refusal => rw [load_refused located found, unloadable_refused_iff, Except.error.injEq, eq_comm]
    | embeddedNull => rw [load_unnamed located found, unloadable_unnamed_iff, Except.error.injEq, eq_comm]

/-- An index is that of lines that are read in full. -/
theorem load_ok {index : NameIndex} (loaded : (archive.load files memory version).result = .ok index) :
    ∃ lines, index = .ofEntries (read lines).entries := by
  cases located : archive.pathOf memory version with
  | error fault =>
    rw [load_unlocated located] at loaded
    cases loaded
  | ok path =>
    have opened (plain : IsPlain (files.find path.toString)) : ∃ lines, index = .ofEntries (read lines).entries := by
      rw [load_plain located plain, readPath_eq, indexed] at loaded
      split at loaded
      next => cases loaded
      next => exact ⟨linesOf (files.find path.toString), (Except.ok.inj loaded).symm⟩
    cases found : files.find path.toString with
    | file bytes => exact opened (found ▸ trivial)
    | closed refusal => exact opened (found ▸ trivial)
    | broken bytes refusal => exact opened (found ▸ trivial)
    | refused refusal =>
      rw [load_refused located found] at loaded
      cases loaded
    | embeddedNull =>
      rw [load_unnamed located found] at loaded
      cases loaded

theorem readLine_error_iff {word : List Char} : Query.readLine word = .error fault ↔
    (readInteger word = .error .malformed ∧ fault = .badRequestLine (String.ofList word)) ∨
      ∃ digits, IsOverlong (unsigned word) digits ∧ fault = .numeralTooLong digits := by
  simp only [← readInteger_tooLong_iff]
  rw [Query.readLine]
  split
  next line read => simp [read]
  next read => simp [read, eq_comm]
  next digits read => simp [read, eq_comm]

theorem ofWords_error_iff {words : List (List Char)} : Query.ofWords words = .error fault ↔
    (words.length < 2 ∧ fault = .tooFewWords) ∨
      ∃ version className method word more,
        words = version :: className :: method :: word :: more ∧ Query.readLine word = .error fault := by
  match words with
  | [] => simp [Query.ofWords, eq_comm]
  | [version] => simp [Query.ofWords, eq_comm]
  | [version, className] => simp [Query.ofWords, bind, Except.bind, pure, Except.pure]
  | [version, className, method] => simp [Query.ofWords, bind, Except.bind, pure, Except.pure]
  | version :: className :: method :: word :: more =>
    cases read : Query.readLine word <;> simp [Query.ofWords, bind, Except.bind, pure, Except.pure, Except.map, read]

theorem ofWords_ok {words : List (List Char)} {query : Query} (made : Query.ofWords words = .ok query) :
    ∃ version className rest, words = version :: className :: rest ∧ query.version = String.ofList version ∧
      query.target.className = String.ofList className ∧
      query.target.methodName = rest.head?.map String.ofList := by
  match words with
  | [] => cases made
  | [version] => cases made
  | [version, className] => cases made; exact ⟨version, className, [], rfl, rfl, rfl, rfl⟩
  | [version, className, method] => cases made; exact ⟨version, className, [method], rfl, rfl, rfl, rfl⟩
  | version :: className :: method :: word :: more =>
    change ((Query.readLine word).map some >>= fun line => _) = _ at made
    cases read : Query.readLine word with
    | error fault => rw [read] at made; cases made
    | ok line =>
      rw [read] at made
      cases made
      exact ⟨version, className, method :: word :: more, rfl, rfl, rfl, rfl⟩

theorem indexOf_error_iff {resolver : Resolver} : (resolver.indexOf files memory version).2.result = .error fault ↔
    version ∉ resolver.cache.versions ∧ (resolver.archive.load files memory version).result = .error fault := by
  change (resolver.cache.fetch version fun _ => resolver.archive.load files memory version).2.result = _ ↔ _
  exact fetch_error_iff

/-- A fault that a client is told of as a failure of the version. -/
def IsFailure (fault : Fault) : Prop := fault.kind = .mappingUnavailable ∨ fault.kind = .mappingCorrupt

theorem answerFrom_failed (query : Query) {index : Attempt Fault NameIndex} (failed : index.result = .error fault) :
    (IsFailure fault → (Resolver.answerFrom query index).result = .ok (.failed fault.failure)) ∧
      (¬ IsFailure fault → (Resolver.answerFrom query index).result = .error fault) := by
  rw [Resolver.answerFrom, failed]
  dsimp only
  cases kind : fault.kind <;> simp [IsFailure, kind]

theorem answerFrom_found {query : Query} {index : Attempt Fault NameIndex} {finding : Finding}
    (answered : (Resolver.answerFrom query index).result = .ok (.found finding)) :
    ∃ found, index.result = .ok found ∧ found.find query.target = finding := by
  cases got : index.result with
  | ok found =>
    rw [Resolver.answerFrom, got] at answered
    cases answered
    exact ⟨found, rfl, rfl⟩
  | error fault =>
    obtain ⟨reported, passed⟩ := answerFrom_failed query got
    by_cases failure : IsFailure fault
    · cases (reported failure).symm.trans answered
    · cases (passed failure).symm.trans answered

theorem response_result (answer : Attempt Fault Answer) :
    (Answer.response <$> answer).result = answer.result.map Answer.response := by
  change (answer.bind _).result = _
  rw [Attempt.bind]
  cases answer.result <;> rfl

/-- How a request can end, by the layer that decides it. -/
inductive Ends (resolver : Resolver) (files : FileSystem) (memory : Memory) (request : String) :
    Except Fault String → Prop where
  | unread {fault : Fault} (unread : Query.read request = .error fault) (malformed : fault.kind = .requestMalformed) :
      Ends resolver files memory request (.ok fault.failure.response)
  | stuck {fault : Fault} (unread : Query.read request = .error fault) (other : fault.kind ≠ .requestMalformed) :
      Ends resolver files memory request (.error fault)
  | found {query : Query} {index : NameIndex} (read : Query.read request = .ok query)
      (got : (resolver.indexOf files memory query.version).2.result = .ok index) :
      Ends resolver files memory request (.ok (index.find query.target).response)
  | failed {query : Query} {fault : Fault} (read : Query.read request = .ok query)
      (failed : (resolver.indexOf files memory query.version).2.result = .error fault) (failure : IsFailure fault) :
      Ends resolver files memory request (.ok fault.failure.response)
  | escaped {query : Query} {fault : Fault} (read : Query.read request = .ok query)
      (failed : (resolver.indexOf files memory query.version).2.result = .error fault) (other : ¬ IsFailure fault) :
      Ends resolver files memory request (.error fault)

theorem respond_ends (resolver : Resolver) (files : FileSystem) (memory : Memory) (request : String) :
    Ends resolver files memory request (resolver.respond files memory request).2.result := by
  rw [Resolver.respond]
  cases read : Query.read request with
  | error fault =>
    dsimp only
    split
    next malformed => exact .unread read malformed
    next other => exact .stuck read other
  | ok query =>
    change Ends resolver files memory request (Answer.response <$> (resolver.answer files memory query).2).result
    rw [response_result]
    change Ends resolver files memory request
      ((Resolver.answerFrom query (resolver.indexOf files memory query.version).2).result.map Answer.response)
    cases got : (resolver.indexOf files memory query.version).2.result with
    | ok index =>
      rw [Resolver.answerFrom, got]
      exact .found read got
    | error fault =>
      obtain ⟨reported, passed⟩ := answerFrom_failed query got
      by_cases failure : IsFailure fault
      · rw [reported failure]
        exact .failed read got failure
      · rw [passed failure]
        exact .escaped read got failure

theorem respond_error_iff {resolver : Resolver} {request : String} :
    (resolver.respond files memory request).2.result = .error fault ↔
      (Query.read request = .error fault ∧ fault.kind ≠ .requestMalformed) ∨
        ∃ query, Query.read request = .ok query ∧
          (resolver.indexOf files memory query.version).2.result = .error fault ∧ ¬ IsFailure fault := by
  have ends := respond_ends resolver files memory request
  constructor
  · intro refused
    rw [refused] at ends
    cases ends with
    | stuck unread other => exact .inl ⟨unread, other⟩
    | escaped read failed other => exact .inr ⟨_, read, failed, other⟩
  · generalize (resolver.respond files memory request).2.result = result at ends
    rintro (⟨unread', other'⟩ | ⟨query', read', failed', other'⟩)
    · cases ends with
      | unread unread malformed =>
        cases unread.symm.trans unread'
        exact absurd malformed other'
      | stuck unread other =>
        cases unread.symm.trans unread'
        rfl
      | found read got => cases read.symm.trans unread'
      | failed read failed failure => cases read.symm.trans unread'
      | escaped read failed other => cases read.symm.trans unread'
    · cases ends with
      | unread unread malformed => cases unread.symm.trans read'
      | stuck unread other => cases unread.symm.trans read'
      | found read got =>
        cases read.symm.trans read'
        cases got.symm.trans failed'
      | failed read failed failure =>
        cases read.symm.trans read'
        cases failed.symm.trans failed'
        exact absurd failure other'
      | escaped read failed other =>
        cases read.symm.trans read'
        cases failed.symm.trans failed'
        rfl

end Deobfuscator.Proofs.RequestOutcomes
