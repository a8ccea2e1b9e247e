import Deobfuscator.Fault

/-!
What a query comes to, and the response: the line of text that says so.
-/

namespace Deobfuscator

/-- The plain names of a class and, if a method was asked for, of the methods that it may be. -/
structure Finding where
  className : String
  methodNames : List String
  deriving DecidableEq, Repr

/-- A failure: its label and its text, which may be empty. -/
structure Failure where
  label : String
  text : String
  deriving DecidableEq, Repr

/-- What a client is told: the text, or the label of a failure that has none. -/
def Failure.message (failure : Failure) : String := if failure.text.isEmpty then failure.label else failure.text

def Fault.failure (fault : Fault) : Failure := ⟨fault.kind.label, fault.message⟩

inductive Answer where
  | found (finding : Finding)
  | failed (failure : Failure)
  deriving DecidableEq, Repr

def Failure.response (failure : Failure) : String := "ERROR: " ++ failure.message

/-- The line that gives a finding. The blank after the class is written even if no method names follow. -/
def Finding.response (finding : Finding) : String :=
  "OK: " ++ finding.className ++ " " ++ ",".intercalate finding.methodNames

def Answer.response : Answer → String
  | .found finding => finding.response
  | .failed failure => failure.response

end Deobfuscator
