import Deobfuscator.Fault
import Deobfuscator.Text.Blank

/-!
Queries: what is looked up, in the mapping table of which version. A request is a query as one line of text, whose words
are the version, the class, and optionally a method and a line. Words after the fourth carry no meaning.
-/

namespace Deobfuscator

open Text

/-- The line of a query that names none. Only methods without line information are about it. -/
def noLine : Int := -1

/-- An obfuscated class and, if it is asked for, a method of it and a line in that method. -/
structure Target where
  className : String
  methodName : Option String
  line : Option Int
  deriving DecidableEq, Repr

def Target.lineNumber (target : Target) : Int := target.line.getD noLine

structure Query where
  version : String
  target : Target
  deriving DecidableEq, Repr

namespace Query

def readLine (word : List Char) : Except Fault Int :=
  match readInteger word with
  | .ok line => .ok line
  | .error .malformed => .error (.badRequestLine (String.ofList word))
  | .error (.tooLong digits) => .error (.numeralTooLong digits)

/-- The query that the words of a request make. -/
def ofWords : List (List Char) → Except Fault Query
  | version :: className :: rest => do
    let line ← match rest[1]? with
      | some word => (readLine word).map some
      | none => .ok none
    return ⟨String.ofList version, ⟨String.ofList className, rest[0]?.map String.ofList, line⟩⟩
  | _ => .error .tooFewWords

def read (request : String) : Except Fault Query := ofWords (words request.toList)

end Query

end Deobfuscator
