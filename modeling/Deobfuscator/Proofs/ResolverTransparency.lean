import Deobfuscator.Proofs.CacheFetch
import Deobfuscator.Proofs.PlainTemplates
import Deobfuscator.Proofs.ShownPlaces
import Deobfuscator.Resolver

/-! A resolver answers as if it kept nothing: whatever was asked of it before, a
resident index is the one that its file gave when it was loaded. So an answer depends
on the archive, the query and the one file that holds its version. Which file that is
may depend on the memory, if the template shows where a value is kept. -/

namespace Deobfuscator.Proofs.ResolverTransparency
open Mapping CacheFetch PlainTemplates ShownPlaces
open Template (Memory)

/-- What a client may ask of a resolver, with the memory as it is then: an answer to a
query, or a response to a line. -/
inductive Call where
  | answer (memory : Memory) (query : Query)
  | respond (memory : Memory) (request : String)

namespace Call

def memory : Call → Memory
  | .answer memory _ | .respond memory _ => memory

def query? : Call → Option Query
  | .answer _ query => some query
  | .respond _ request => (Query.read request).toOption

end Call

def serve (files : FileSystem) (resolver : Resolver) : Call → Resolver
  | .answer memory query => (resolver.answer files memory query).1
  | .respond memory request => (resolver.respond files memory request).1

def serveAll (files : FileSystem) (resolver : Resolver) (calls : List Call) : Resolver :=
  calls.foldl (serve files) resolver

def fresh (archive : Archive) (capacity : Nat) (positive : 0 < capacity) : Resolver :=
  ⟨archive, .withCapacity capacity positive⟩

/-- The memories in which a version is asked for: now, or by one of the calls before. -/
def Met (calls : List Call) (now : Memory) (version : String) (memory : Memory) : Prop :=
  memory = now ∨ ∃ call ∈ calls, call.memory = memory ∧ ∃ query, call.query? = some query ∧ query.version = version

/-- A resolver of an archive that keeps what the files give in one of these memories. -/
structure Faithful (archive : Archive) (files : FileSystem) (met : String → Memory → Prop) (resolver : Resolver) :
    Prop where
  same : resolver.archive = archive
  loaded : ∀ entry ∈ resolver.cache.entries,
    ∃ memory, met entry.1 memory ∧ (archive.load files memory entry.1).result = .ok entry.2

variable {archive : Archive} {files : FileSystem} {memory : Memory} {met : String → Memory → Prop}
  {resolver : Resolver} {version : String}

theorem fresh_faithful (capacity : Nat) (positive : 0 < capacity) :
    Faithful archive files met (fresh archive capacity positive) := by
  refine ⟨rfl, ?_⟩
  intro entry member
  cases member

/-- An index that was loaded is kept, and given again, with the memory that it was loaded in. -/
theorem Faithful.indexOf (faithful : Faithful archive files met resolver) (now : met version memory) :
    Faithful archive files met (resolver.indexOf files memory version).1 ∧
    ∃ memory', met version memory' ∧
      (resolver.indexOf files memory version).2.result = (archive.load files memory' version).result := by
  obtain ⟨rfl, loaded⟩ := faithful
  obtain ⟨kept, given⟩ := fetch_forall
    (P := fun version index => ∃ memory, met version memory ∧
      (resolver.archive.load files memory version).result = .ok index)
    resolver.cache version (fun _ => resolver.archive.load files memory version) loaded
    fun _ built => ⟨memory, now, built⟩
  refine ⟨⟨rfl, kept⟩, ?_⟩
  change ∃ memory', met version memory' ∧
    (resolver.cache.fetch version fun _ => resolver.archive.load files memory version).2.result = _
  cases got : (resolver.cache.fetch version fun _ => resolver.archive.load files memory version).2.result with
  | ok index =>
    obtain ⟨memory', member, built⟩ := given index got
    exact ⟨memory', member, built.symm⟩
  | error fault => exact ⟨memory, now, (fetch_error_iff.mp got).2.symm⟩

/-- A call asks for the index of the version of its query. A line that is no query
leaves the resolver alone. -/
theorem serve_eq (files : FileSystem) (resolver : Resolver) (call : Call) :
    serve files resolver call = match call.query? with
      | some query => (resolver.indexOf files call.memory query.version).1
      | none => resolver := by
  cases call with
  | answer memory query => rfl
  | respond memory request =>
    change (resolver.respond files memory request).1 = match (Query.read request).toOption with
      | some query => (resolver.indexOf files memory query.version).1
      | none => resolver
    unfold Resolver.respond
    cases Query.read request with
    | ok query => rfl
    | error fault =>
      dsimp only [Except.toOption]
      cases fault.kind <;> rfl

theorem Faithful.serve (faithful : Faithful archive files met resolver) {call : Call}
    (asked : ∀ query, call.query? = some query → met query.version call.memory) :
    Faithful archive files met (serve files resolver call) := by
  rw [serve_eq]
  cases query : call.query? with
  | none => exact faithful
  | some query' => exact (faithful.indexOf (asked query' query)).1

theorem Faithful.serveAll (faithful : Faithful archive files met resolver) {calls : List Call}
    (asked : ∀ call ∈ calls, ∀ query, call.query? = some query → met query.version call.memory) :
    Faithful archive files met (serveAll files resolver calls) := by
  induction calls generalizing resolver with
  | nil => exact faithful
  | cons call calls ih =>
    obtain ⟨first, rest⟩ := List.forall_mem_cons.mp asked
    exact ih (faithful.serve first) rest

/-- How an index was come by shows in the notices only. -/
theorem answerFrom_result (query : Query) {first second : Attempt Fault NameIndex}
    (same : first.result = second.result) :
    (Resolver.answerFrom query first).result = (Resolver.answerFrom query second).result := by
  rw [Resolver.answerFrom, Resolver.answerFrom, same]
  cases second.result with
  | ok index => rfl
  | error fault =>
    dsimp only
    cases fault.kind <;> rfl

/-- A query is answered from what its file gives in a memory in which its version is
asked for, by the query or by a call before it. -/
theorem serveAll_answer (archive : Archive) (files : FileSystem) (capacity : Nat) (positive : 0 < capacity)
    (calls : List Call) (memory : Memory) (query : Query) :
    ∃ memory', Met calls memory query.version memory' ∧
      ((serveAll files (fresh archive capacity positive) calls).answer files memory query).2.result =
        (Resolver.answerFrom query (archive.load files memory' query.version)).result := by
  -- For the calls a version is asked for in the memories of the calls alone; the query comes last.
  have used : Faithful archive files (fun version => Met calls memory version)
      (serveAll files (fresh archive capacity positive) calls) := by
    refine (fresh_faithful capacity positive).serveAll ?_
    intro call member query' asks
    exact .inr ⟨call, member, rfl, query', asks, rfl⟩
  have now : Met calls memory query.version memory := .inl rfl
  obtain ⟨_, memory', member, same⟩ := used.indexOf now
  exact ⟨memory', member, answerFrom_result query same⟩

/-- Loading a version looks at one path only. -/
theorem load_congr {other : FileSystem} {memory' : Memory}
    (path : archive.pathOf memory version = archive.pathOf memory' version)
    (same : ∀ path, archive.pathOf memory version = .ok path → files.find path.toString = other.find path.toString) :
    archive.load files memory version = archive.load other memory' version := by
  have read : archive.readVersion files memory version = archive.readVersion other memory' version := by
    unfold Archive.readVersion
    rw [← path]
    cases located : archive.pathOf memory version with
    | error fault => rfl
    | ok path =>
      have equal := same path located
      have stream : readPath files path.toString = readPath other path.toString := by
        rw [readPath, readPath, equal]
      simp only [Attempt.quiet, bind, Attempt.bind, equal, stream]
  rw [Archive.load, Archive.load, read]

theorem fresh_answer (archive : Archive) (files : FileSystem) (capacity : Nat) (positive : 0 < capacity)
    (memory : Memory) (query : Query) : ((fresh archive capacity positive).answer files memory query).2.result =
      (Resolver.answerFrom query (archive.load files memory query.version)).result := by
  obtain ⟨memory', rfl | ⟨call, member, _⟩, same⟩ := serveAll_answer archive files capacity positive [] memory query
  · exact same
  · cases member

/-- The path of the version is all that a memory counts for. -/
theorem fresh_answer_congr {capacity : Nat} {positive : 0 < capacity} {memory' : Memory} {query : Query}
    (path : archive.pathOf memory query.version = archive.pathOf memory' query.version) :
    ((fresh archive capacity positive).answer files memory query).2.result =
      ((fresh archive capacity positive).answer files memory' query).2.result := by
  have loaded : archive.load files memory query.version = archive.load files memory' query.version :=
    load_congr path fun _ _ => rfl
  rw [fresh_answer, fresh_answer, loaded]

/-- Other files than that of the version do not count. -/
theorem serveAll_answer_fresh (archive : Archive) {files other : FileSystem} (capacity capacity' : Nat)
    (positive : 0 < capacity) (positive' : 0 < capacity') {calls : List Call} {memory : Memory} {query : Query}
    (same : ∀ memory', Met calls memory query.version memory' → ∀ path,
      archive.pathOf memory' query.version = .ok path → files.find path.toString = other.find path.toString) :
    ∃ memory', Met calls memory query.version memory' ∧
      ((serveAll other (fresh archive capacity positive) calls).answer other memory query).2.result =
        ((fresh archive capacity' positive').answer files memory' query).2.result := by
  obtain ⟨memory', met, result⟩ := serveAll_answer archive other capacity positive calls memory query
  refine ⟨memory', met, ?_⟩
  rw [result, fresh_answer, load_congr rfl (same memory' met)]

-- With a place in the path, a kept index may come from a file that is not looked at now.
example :
    let archive : Archive := ⟨"m", "\x7bversion.upper\x7d"⟩
    let query : Query := ⟨"v1", ⟨"c", none, none⟩⟩
    let files : FileSystem := .single "m/<built-in method upper of str object at 0x10>" (.file [])
    let kept := serveAll files (fresh archive 1 Nat.one_pos) [.answer (.constant "0x10") query]
    (kept.answer files (.constant "0x20") query).2.result = .ok (.found ⟨"c", []⟩) ∧
    ((fresh archive 1 Nat.one_pos).answer files (.constant "0x20") query).2.result =
      .ok (.failed (Fault.fileNotFound "m/<built-in method upper of str object at 0x20>").failure) := by
  decide +kernel

end Deobfuscator.Proofs.ResolverTransparency
