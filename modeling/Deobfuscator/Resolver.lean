import Deobfuscator.Archive
import Deobfuscator.Cache

/-!
The resolver: it answers queries from the mapping files of an archive, and keeps the indexes of recent versions. A
version without a readable mapping file is a failure that the client is told of; so is a line that is no request.
-/

namespace Deobfuscator

open Template (Memory)

structure Resolver where
  archive : Archive
  cache : Cache NameIndex

namespace Resolver

def start (archive : Archive) (capacity : Int) : Except Fault Resolver :=
  (Cache.ofCapacity capacity).map (⟨archive, ·⟩)

/-- The index of a version, from the cache or from its file. -/
def indexOf (resolver : Resolver) (files : FileSystem) (memory : Memory) (version : String) :
    Resolver × Attempt Fault NameIndex :=
  let (cache, fetched) := resolver.cache.fetch version fun _ => resolver.archive.load files memory version
  ({ resolver with cache := cache }, ⟨fetched.notices version, fetched.result⟩)

/-- What a query comes to once the index of its version was asked for. -/
def answerFrom (query : Query) (index : Attempt Fault NameIndex) : Attempt Fault Answer :=
  match index.result with
  | .ok found => ⟨index.notices, .ok (.found (found.find query.target))⟩
  | .error fault =>
    match fault.kind with
    -- Only these are failures of a version; what else goes wrong is no answer.
    | .mappingUnavailable | .mappingCorrupt =>
      ⟨index.notices ++ [.cannotLoad query.version fault.message], .ok (.failed fault.failure)⟩
    | .requestMalformed | .exhausted | .unexpected => ⟨index.notices, .error fault⟩

def answer (resolver : Resolver) (files : FileSystem) (memory : Memory) (query : Query) :
    Resolver × Attempt Fault Answer :=
  let (after, index) := resolver.indexOf files memory query.version
  (after, answerFrom query index)

def respond (resolver : Resolver) (files : FileSystem) (memory : Memory) (request : String) :
    Resolver × Attempt Fault String :=
  match Query.read request with
  | .ok query =>
    let (after, answer) := resolver.answer files memory query
    (after, Answer.response <$> answer)
  | .error fault =>
    match fault.kind with
    | .requestMalformed => (resolver, Attempt.quiet (.ok fault.failure.response))
    | _ => (resolver, Attempt.quiet (.error fault))

/-- The path that is looked up for a request whose index is not in the cache. -/
def askedPath (resolver : Resolver) (memory : Memory) (request : String) : Option String :=
  match Query.read request with
  | .ok query => resolver.archive.askedPath memory query.version
  | .error _ => none

end Resolver

end Deobfuscator
