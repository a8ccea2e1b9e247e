import Deobfuscator.FileSystem
import Deobfuscator.Template.Fault
import Deobfuscator.Text.Numeral
import Deobfuscator.Text.Utf8

/-!
Everything that can go wrong, by cause. A fault of one of the first three kinds is reported to the client; any other
passes through to the caller.
-/

namespace Deobfuscator

open Text

/-- A path that cannot even be asked about, and why. -/
structure RefusedPath where
  path : String
  refusal : Refusal
  deriving DecidableEq, Repr

inductive Fault where
  /-- A request has fewer than two words. -/
  | tooFewWords
  /-- The fourth word of a request is not an integer. -/
  | badRequestLine (word : String)
  | numeralTooLong (digits : Nat)
  /-- A part of a color has no numeral. -/
  | missingNumeral
  /-- A version that would name another directory, or nothing. -/
  | invalidVersion (version : String)
  | fileNotFound (path : String)
  | unreadable (path : String) (refusal : Refusal)
  | pathRefused (refused : RefusedPath)
  /-- A file that was opened cannot be read to its end. -/
  | readingFailed (refusal : Refusal)
  | embeddedNull
  | notAHeader (line : Nat) (text : String)
  | badLineNumber (line : Nat) (number : String)
  | undecodable (path : String) (fault : Utf8.Fault)
  | template (fault : Template.Fault)
  | badCapacity (capacity : Int)
  /-- A limit that is no count of bytes. -/
  | noCount
  deriving DecidableEq, Repr

inductive FaultKind where
  | requestMalformed
  | mappingUnavailable
  | mappingCorrupt
  /-- There is no room for what is asked for. -/
  | exhausted
  | unexpected
  deriving DecidableEq, Repr

def FaultKind.label : FaultKind → String
  | .requestMalformed => "RequestMalformed"
  | .mappingUnavailable => "MappingUnavailable"
  | .mappingCorrupt => "MappingCorrupt"
  | .exhausted => "MemoryError"
  | .unexpected => "Unexpected"

namespace Fault

def kind : Fault → FaultKind
  | .tooFewWords | .badRequestLine _ => .requestMalformed
  | .invalidVersion _ | .fileNotFound _ | .unreadable .. => .mappingUnavailable
  | .notAHeader .. | .badLineNumber .. | .undecodable .. => .mappingCorrupt
  | .template .outOfMemory => .exhausted
  | .numeralTooLong _ | .missingNumeral | .pathRefused _ | .readingFailed _ | .embeddedNull | .template _
  | .badCapacity _ | .noCount => .unexpected

def message : Fault → String
  | .tooFewWords => "couldn't parse the request"
  | .badRequestLine word => "invalid line number: " ++ quoted word
  | .numeralTooLong digits => tooLongMessage digits
  | .missingNumeral => "invalid literal for int() with base 10: ''"
  | .invalidVersion version => "invalid version: " ++ quoted version
  | .fileNotFound path => "file not found: " ++ path
  | .unreadable path refusal => "cannot read " ++ path ++ ": " ++ refusal.text
  | .pathRefused refused =>
    "[Errno " ++ toString refused.refusal.number ++ "] " ++ refused.refusal.text ++ ": " ++ quoted refused.path
  | .readingFailed refusal => "[Errno " ++ toString refusal.number ++ "] " ++ refusal.text
  | .embeddedNull => "embedded null byte"
  | .notAHeader line text => "line " ++ toString line ++ ": unrecognised class mapping " ++ quoted text
  | .badLineNumber line number => "line " ++ toString line ++ ": invalid line number " ++ quoted number
  | .undecodable path fault => path ++ ": " ++ fault.message
  | .template fault => fault.message
  | .badCapacity capacity => "cache capacity must be positive, got " ++ toString capacity
  | .noCount => "cannot fit 'int' into an index-sized integer"

end Fault

end Deobfuscator
