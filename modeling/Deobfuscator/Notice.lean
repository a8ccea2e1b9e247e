import Deobfuscator.Address
import Deobfuscator.Fault

/-!
What the library tells its log, by cause, and computations that give notices beside their result.
-/

namespace Deobfuscator

open Text

inductive Level where
  | debug
  | info
  | warning
  | error
  deriving DecidableEq, Repr

def Level.label : Level → String
  | .debug => "DEBUG"
  | .info => "INFO"
  | .warning => "WARNING"
  | .error => "ERROR"

inductive Notice where
  /-- A member line in front of the first class header. -/
  | outsideClass (line : Nat) (text : String)
  | unrecognised (line : Nat) (text : String)
  | reading (path : String)
  | loading (version : String)
  | evicted (version : String)
  | cannotLoad (version reason : String)
  | overlong (client : Address) (limit : Int)
  | unexpected (request : String)
  | received (request : String)
  | sent (response : String)
  deriving DecidableEq, Repr

def Notice.level : Notice → Level
  | .outsideClass .. | .unrecognised .. | .reading _ => .debug
  | .loading _ | .evicted _ | .received _ | .sent _ => .info
  | .cannotLoad .. | .overlong .. => .warning
  | .unexpected _ => .error

def Notice.text : Notice → String
  | .outsideClass line text => "Skipping member line " ++ toString line ++ " outside of a class: " ++ quoted text
  | .unrecognised line text => "Skipping unrecognised line " ++ toString line ++ ": " ++ quoted text
  | .reading path => "Reading mapping file " ++ path
  | .loading version => "Loading mapping table for version " ++ version
  | .evicted version => "Evicted mapping table for version " ++ version
  | .cannotLoad version reason => "Cannot load mapping for version " ++ version ++ ": " ++ reason
  | .overlong client limit =>
    "Closing (" ++ quoted client.host ++ ", " ++ toString client.number ++ "): request line exceeds " ++
      toString limit ++ " bytes"
  | .unexpected request => "Unexpected error handling " ++ quoted request
  | .received request => "C: " ++ request
  | .sent response => "S: " ++ response

/-- A computation that was tried: its notices, in order, and how it ended. -/
structure Attempt (ε α : Type) where
  notices : List Notice
  result : Except ε α

namespace Attempt

variable {ε α β : Type}

def quiet (result : Except ε α) : Attempt ε α := ⟨[], result⟩

/-- Goes on with the value of a first attempt; its fault ends both. -/
def bind (first : Attempt ε α) (next : α → Attempt ε β) : Attempt ε β :=
  match first.result with
  | .error fault => ⟨first.notices, .error fault⟩
  | .ok value => ⟨first.notices ++ (next value).notices, (next value).result⟩

instance : Monad (Attempt ε) where
  pure value := quiet (.ok value)
  bind := bind

def tell (notice : Notice) : Attempt ε Unit := ⟨[notice], .ok ()⟩

end Attempt

end Deobfuscator
