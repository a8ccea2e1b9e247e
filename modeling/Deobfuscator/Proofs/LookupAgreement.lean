import Deobfuscator.CommandLine.Run
import Deobfuscator.Proofs.PrintedText
import Deobfuscator.Proofs.RequestOutcomes
import Deobfuscator.Proofs.RequestWords
import Deobfuscator.Proofs.ResolverTransparency

/-! A lookup against the response to the request for it. The two differ in how the
query is come by, in the resolver, and in what is printed of the response. -/

namespace Deobfuscator.Proofs.LookupAgreement
open Text CommandLine PlainTemplates RequestOutcomes RequestWords ResolverTransparency ShownPlaces PrintedText
open Template (Memory)

variable {console : Console} {archive : Archive} {files : FileSystem} {memory : Memory} {resolver : Resolver}
  {query : Query}

theorem respond_request (askable : IsAskable query) :
    (resolver.respond files memory (request query)).2.result =
      (resolver.answer files memory query).2.result.map Answer.response := by
  rw [Resolver.respond, read_request askable]
  exact response_result (resolver.answer files memory query).2

def IsRefusal (response : String) : Prop := ∃ rest, response = "ERROR: " ++ rest

theorem isRefusal_response (answer : Answer) : IsRefusal answer.response ↔ ∃ failure, answer = .failed failure := by
  cases answer with
  | found finding =>
    have other : ¬ IsRefusal finding.response := by
      rintro ⟨rest, same⟩
      have start := congrArg (·.toList.head?) same
      simp [Finding.response] at start
    simpa [Answer.response] using other
  | failed failure => exact iff_of_true ⟨failure.message, rfl⟩ ⟨failure, rfl⟩

/-- The answer of the resolver that a lookup starts. -/
def answerAlone (archive : Archive) (files : FileSystem) (memory : Memory) (query : Query) : Except Fault Answer :=
  ((fresh archive 1 Nat.one_pos).answer files memory query).2.result

theorem runLookup_escaped {fault : Fault} (failed : answerAlone archive files memory query = .error fault) :
    runLookup console files memory archive query = .escaped fault := by
  rw [answerAlone, fresh] at failed
  unfold runLookup
  dsimp only
  rw [failed]

theorem runLookup_finished (console : Console) {answer : Answer}
    (answered : answerAlone archive files memory query = .ok answer) :
    ∃ status errors,
      runLookup console files memory archive query = .finished status (console.line answer.response) errors ∧
        status ≤ 1 ∧ (status = 1 ↔ IsRefusal answer.response) := by
  rw [answerAlone, fresh] at answered
  unfold runLookup
  dsimp only
  rw [answered, isRefusal_response]
  cases answer with
  | found finding => exact ⟨0, _, rfl, Nat.zero_le 1, by simp⟩
  | failed failure => exact ⟨1, _, rfl, Nat.le_refl 1, by simp⟩

/-- A lookup ends as a request does: it prints the response, and its status tells an
answer from a refusal, or it lets the same fault out. -/
structure Agrees (console : Console) (files : FileSystem) (memory : Memory) (archive : Archive) (query : Query)
    (response : Except Fault String) : Prop where
  escaped : ∀ fault, response = .error fault ↔ runLookup console files memory archive query = .escaped fault
  finished : ∀ line, response = .ok line → ∃ status errors,
    runLookup console files memory archive query = .finished status (console.line line) errors ∧
      status ≤ 1 ∧ (status = 1 ↔ IsRefusal line)

theorem agrees_alone (console : Console) (files : FileSystem) (memory : Memory) (archive : Archive) (query : Query) :
    Agrees console files memory archive query ((answerAlone archive files memory query).map Answer.response) := by
  cases ended : answerAlone archive files memory query with
  | error fault =>
    refine ⟨?_, ?_⟩
    · simp [runLookup_escaped ended, Except.map]
    · rintro line ⟨⟩
  | ok answer =>
    obtain ⟨status, errors, finished, bound, refused⟩ := runLookup_finished console ended
    refine ⟨?_, ?_⟩
    · simp [finished, Except.map]
    · rintro line ⟨rfl⟩
      exact ⟨status, errors, finished, bound, refused⟩

/-- A query that is looked up prints what its request is answered, by a resolver that
was asked anything before, and ends in the same way, in every memory; if the template
shows where a value is kept, then in one of the memories in which the version was asked
for, or in all of them if they give one path. All of the response is printed, unless a
sequence stands in it that the console leaves out. -/
theorem runLookup_agrees (console : Console) (archive : Archive) (files : FileSystem) (capacity : Nat)
    (positive : 0 < capacity) (calls : List Call) (memory : Memory) (query : Query) (askable : IsAskable query) :
    let resolver := serveAll files (fresh archive capacity positive) calls
    let response := (resolver.respond files memory (request query)).2.result
    let met := Met calls memory query.version
    let path (memory : Memory) := archive.pathOf memory query.version
    (∃ memory', met memory' ∧ Agrees console files memory' archive query response) ∧
    (∀ memory', (∀ other, met other → path other = path memory') →
      Agrees console files memory' archive query response) ∧
    (isPlaceless query.version.toList 2 archive.template.toList →
      ∀ memory', Agrees console files memory' archive query response) ∧
    ∀ isSequence, LeavesOut isSequence console → ∀ line, response = .ok line →
      (console.line line = line ++ "\n" ↔ ¬ Holds isSequence line.toList) := by
  intro resolver response met path
  obtain ⟨memory₁, met₁, answered⟩ : ∃ memory', met memory' ∧
      (resolver.answer files memory query).2.result = answerAlone archive files memory' query :=
    serveAll_answer_fresh archive capacity 1 positive Nat.one_pos fun _ _ _ _ => rfl
  have same : response = (answerAlone archive files memory₁ query).map Answer.response :=
    (respond_request askable).trans (congrArg (Except.map Answer.response) answered)
  have located (memory' : Memory) (one : path memory₁ = path memory') :
      Agrees console files memory' archive query response := by
    have moved : answerAlone archive files memory₁ query = answerAlone archive files memory' query :=
      fresh_answer_congr one
    rw [same, moved]
    exact agrees_alone console files memory' archive query
  refine ⟨⟨memory₁, met₁, located memory₁ rfl⟩, ?_, ?_, ?_⟩
  · exact fun memory' one => located memory' (one memory₁ met₁)
  · exact fun placeless memory' => located memory' (pathOf_placeless placeless memory₁ memory')
  · intro isSequence documented line _
    refine ⟨?_, documented.kept line⟩
    intro printed holds
    exact documented.dropped line holds printed

/-- A line below zero, which a request writes with its sign, of a resolver that was
asked for another version and for something that is no query. -/
theorem runLookup_agrees_negative :
    let archive : Archive := ⟨"m", plain "v-" ".map"⟩
    let files : FileSystem := .single "m/v-1.map" (.file (Utf8.encode "x,Y -> c:\n\tint f() -> m\n".toList))
    let memory : Memory := .constant "0x10"
    let alone : Memory := .constant "0x30"
    let query : Query := ⟨"1", ⟨"c", some "m", some (-7)⟩⟩
    let calls : List Call := [.respond (.constant "0x20") "1 c", .respond memory "2 c", .respond memory "2"]
    let resolver := serveAll files (fresh archive 1 Nat.one_pos) calls
    IsAskable query ∧ isPlaceless query.version.toList 2 archive.template.toList ∧ request query = "1 c m -7" ∧
      LeavesOut IsSequence .plain ∧
      (resolver.respond files memory (request query)).2.result = .ok "OK: x,Y f" ∧
      (∃ status errors, runLookup .plain files alone archive query =
        .finished status (Console.plain.line "OK: x,Y f") errors ∧ status ≤ 1 ∧ (status = 1 ↔ IsRefusal "OK: x,Y f")) ∧
      (Console.plain.line "OK: x,Y f" = "OK: x,Y f" ++ "\n" ↔ ¬ Holds IsSequence "OK: x,Y f".toList) := by
  intro archive files memory alone query calls resolver
  have askable : IsAskable query := by
    refine ⟨by decide, by decide, ?_, fun _ => rfl, ?_⟩
    · rintro method ⟨rfl⟩
      decide
    · rintro line ⟨rfl⟩
      decide
  have asked : request query = "1 c m -7" := by decide
  have answered : (resolver.respond files memory "1 c m -7").2.result = .ok "OK: x,Y f" := by decide +kernel
  rw [← asked] at answered
  have placeless : isPlaceless query.version.toList 2 archive.template.toList :=
    isPlaceless_plain (by decide) (by decide) _ 2
  obtain ⟨_, _, agrees, whole⟩ := runLookup_agrees .plain archive files 1 Nat.one_pos calls memory query askable
  have finished := (agrees placeless alone).finished _ answered
  exact ⟨askable, placeless, asked, plain_leavesOut, answered, finished, whole IsSequence plain_leavesOut _ answered⟩

/-- A class with a color in its name is answered with it, but not printed so by a console
that leaves colors out. The plain console is one. -/
theorem runLookup_drops_sequence :
    let archive : Archive := ⟨"maps", plain "m-" ".map"⟩
    let files : FileSystem := .single "maps/m-2.map" (.file [])
    let memory : Memory := .constant "0x10"
    let query : Query := ⟨"2", ⟨"a\x1b[31mb", none, none⟩⟩
    let response := "OK: a\x1b[31mb "
    IsAskable query ∧
      ((fresh archive 1 Nat.one_pos).respond files memory (request query)).2.result = .ok response ∧
      (∀ console isSequence, LeavesOut isSequence console → isSequence "\x1b[31m".toList →
        ∀ status errors, runLookup console files memory archive query ≠ .finished status (response ++ "\n") errors) ∧
      LeavesOut IsSequence .plain ∧ IsSequence "\x1b[31m".toList := by
  intro archive files memory query response
  have askable : IsAskable query := by
    refine ⟨by decide, by decide, ?_, ?_, ?_⟩
    · rintro method ⟨⟩
    · rintro ⟨⟩
    · rintro line ⟨⟩
  have answered : answerAlone archive files memory query = .ok (.found ⟨"a\x1b[31mb", []⟩) := by decide +kernel
  have responded : ((fresh archive 1 Nat.one_pos).respond files memory (request query)).2.result = .ok response :=
    (respond_request askable).trans (congrArg (Except.map Answer.response) answered)
  have parametric : ['3', '1'].all isParameter = true := by decide
  have red : IsSequence "\x1b[31m".toList :=
    .written (List.all_eq_true.mp parametric) (List.forall_mem_nil _) (by decide)
  refine ⟨askable, responded, ?_, plain_leavesOut, red⟩
  intro console isSequence documented color status errors same
  obtain ⟨_, _, finished, _⟩ := runLookup_finished console answered
  rw [finished] at same
  refine documented.dropped response ⟨_, color, "OK: a".toList, "b ".toList, by decide⟩ ?_
  exact (Ending.finished.inj same).2.1

end Deobfuscator.Proofs.LookupAgreement
