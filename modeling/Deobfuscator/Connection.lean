import Deobfuscator.Address
import Deobfuscator.Frame
import Deobfuscator.Resolver

/-!
One connection: every request of a client is answered by one line, in order. A line beyond the limit is answered by an
error and ends the connection.
-/

namespace Deobfuscator

open Text

/-- The client at the other end, and how it is served. -/
structure Connection where
  client : Address
  limit : Int
  verbose : Bool
  deriving DecidableEq, Repr

/-- What a connection came to: the state it left, the lines sent, the notices, the number of bytes left unread and the
fault that ended it, if one did. -/
structure Exchange (σ : Type) where
  state : σ
  sent : List String
  notices : List Notice
  unread : Nat
  fault : Option Fault

namespace Connection

variable {σ : Type}

def line (response : String) : String := response ++ "\n"

def overlongResponse : String := "ERROR: line too long"

def request (line : List UInt8) : String := String.ofList (Utf8.decodeLossy line)

/-- The response to a request that was tried. A failure that escapes is reported to the client. -/
def response (attempt : Attempt Failure String) : String :=
  match attempt.result with
  | .ok response => response
  | .error failure => failure.response

/-- The notices about a request that was tried. -/
def notices (connection : Connection) (request : String) (attempt : Attempt Failure String) : List Notice :=
  attempt.notices ++ (match attempt.result with | .ok _ => [] | .error _ => [.unexpected request]) ++
    if connection.verbose then [.received request, .sent (response attempt)] else []

/-- Serves frames one after the other; `respond` responds to a request in a state. -/
def serveFrames (connection : Connection) (respond : σ → String → σ × Attempt Failure String) :
    σ → List Frame → Exchange σ
  | state, [] => ⟨state, [], [], 0, none⟩
  | state, .overlong unread :: _ =>
    ⟨state, [line overlongResponse], [.overlong connection.client connection.limit], unread, none⟩
  | state, .untouched unread :: _ => ⟨state, [], [], unread, none⟩
  | state, .uncounted unread :: _ => ⟨state, [], [], unread, some .noCount⟩
  | state, .endless :: _ => ⟨state, [], [.overlong connection.client connection.limit], 0, some .noCount⟩
  | state, .request bytes :: rest =>
    let (after, attempt) := respond state (request bytes)
    let more := serveFrames connection respond after rest
    ⟨more.state, line (response attempt) :: more.sent, connection.notices (request bytes) attempt ++ more.notices,
      more.unread, more.fault⟩

def serve (connection : Connection) (respond : σ → String → σ × Attempt Failure String) (state : σ)
    (bytes : List UInt8) : Exchange σ :=
  connection.serveFrames respond state (Frame.ofBytes connection.limit bytes)

end Connection

/-- Responds to a request of a connection; a fault that passes through the resolver is a failure of the request. -/
def Resolver.respondOrFail (files : FileSystem) (memory : Template.Memory) (resolver : Resolver) (request : String) :
    Resolver × Attempt Failure String :=
  let (after, attempt) := resolver.respond files memory request
  (after, ⟨attempt.notices, attempt.result.mapError Fault.failure⟩)

end Deobfuscator
