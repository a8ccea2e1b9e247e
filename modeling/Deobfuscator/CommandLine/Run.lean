import Deobfuscator.CommandLine.Command
import Deobfuscator.SlashPath

/-!
What a command line comes to, on a console that prints what the commands say.
-/

namespace Deobfuscator.CommandLine

open Text
open Template (Memory)

inductive Ending where
  /-- The program ends with this status, after this output and these error messages. -/
  | finished (status : Nat) (output errors : String)
  /-- A fault that is not reported ends the program. -/
  | escaped (fault : Fault)
  /-- The program goes on as a server. -/
  | serving (settings : Settings) (resolver : Resolver)

/-- What is printed of notices: the warnings. -/
def warnings (notices : List Notice) : String :=
  String.join ((notices.filter fun notice => notice.level == .warning).map fun notice => notice.text ++ "\n")

/-- Answers one query by a resolver that is started for it. -/
def runLookup (console : Console) (files : FileSystem) (memory : Memory) (archive : Archive) (query : Query) : Ending :=
  let resolver : Resolver := ⟨archive, Cache.withCapacity 1 Nat.one_pos⟩
  let (_, attempt) := resolver.answer files memory query
  match attempt.result with
  | .error fault => .escaped fault
  | .ok answer =>
    let status := match answer with | .found _ => 0 | .failed _ => 1
    .finished status (console.line answer.response) (warnings attempt.notices)

/-- The summary of the file at a path, which has this index. -/
def summary (path : String) (index : NameIndex) : Table where
  title := "Mapping: " ++ (SlashPath.ofString path).name
  head := ("Metric", "Value")
  rows := [("Classes", toString index.classCount), ("Methods", toString index.methodCount),
    ("Candidates", toString index.candidateCount)]

def runStats (console : Console) (files : FileSystem) (path : String) : Ending :=
  match (NameIndex.ofFile files path).result with
  | .error fault =>
    match fault.kind with
    | .exhausted | .unexpected => .escaped fault
    | _ => .finished 1 "" (console.error fault.message)
  | .ok index =>
    -- The table is printed when nothing is caught any more.
    match console.table (summary path index) with
    | .error fault => .escaped fault
    | .ok output => .finished 0 output ""

def runServe (settings : Settings) : Ending :=
  match settings.resolver with
  | .ok resolver => .serving settings resolver
  | .error fault => .escaped fault

/-- The only path that a command looks up before it ends or starts to serve. -/
def askedPath (memory : Memory) (words : List String) : Option String :=
  match splitCommand words with
  | .error _ | .ok none => none
  | .ok (some (name, rest)) =>
    match name, readWords name.options rest with
    | .stats, .ok (_, path :: _) => some path
    | .lookup, .ok (given, version :: _) =>
      match (effective given).foldlM applyOption Settings.standard with
      | .ok settings => settings.archive.askedPath memory version
      | .error _ => none
    | _, _ => none

def run (console : Console) (files : FileSystem) (memory : Memory) (words : List String) : Ending :=
  match Command.read files words with
  | .ok (.lookup archive query) => runLookup console files memory archive query
  | .ok (.stats path) => runStats console files path
  | .ok (.serve settings) => runServe settings
  | .error (.help command) => .finished 0 (console.line (UsageFault.usage command)) ""
  | .error (.usage command fault) => .finished 2 "" (fault.report console command)
  | .error (.unexpected fault) => .escaped fault

end Deobfuscator.CommandLine
