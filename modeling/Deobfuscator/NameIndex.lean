import Deobfuscator.Answer
import Deobfuscator.Mapping.Entry
import Deobfuscator.Query
import Std.Data.ExtTreeMap

/-!
The index of a mapping table. It finds the plain name of a class by its obfuscated name, and the candidates for a method
by the plain name of its class and its own obfuscated name.
-/

namespace Deobfuscator

open Mapping

/-- A method that an obfuscated name may stand for, and the range of lines that this is about. -/
structure Candidate where
  first : Int
  last : Int
  plain : String
  deriving DecidableEq, Repr

/-- A candidate whose last line is zero has no line information and covers every line. -/
def Candidate.covers (candidate : Candidate) (line : Int) : Bool :=
  (candidate.first ≤ line && line ≤ candidate.last) || candidate.last == 0

/-- The plain name of a class and the obfuscated name of a method of it. -/
abbrev MethodKey := String × String

/-- By class, then by method, in code point order. -/
abbrev MethodKey.order : MethodKey → MethodKey → Ordering := lexOrd.compare

structure NameIndex where
  /-- The plain names of classes by their obfuscated names. -/
  classes : Std.ExtTreeMap String String
  /-- The candidates for methods, in the order in which they were added. -/
  methods : Std.ExtTreeMap MethodKey (List Candidate) MethodKey.order

namespace NameIndex

def empty : NameIndex := ⟨∅, ∅⟩

/-- Names a class. A name given before is replaced. -/
def nameClass (index : NameIndex) (obfuscated plain : String) : NameIndex :=
  { index with classes := index.classes.insert obfuscated plain }

/-- Adds a candidate after those that the method has already, even if it is among them. -/
def addCandidate (index : NameIndex) (key : MethodKey) (candidate : Candidate) : NameIndex :=
  { index with methods := index.methods.alter key fun candidates => some (candidates.getD [] ++ [candidate]) }

/-- Adds an entry of a mapping table. Fields are of no use to a query. -/
def add (index : NameIndex) : Entry → NameIndex
  | .header entry => index.nameClass entry.obfuscated entry.plain
  | .method entry => index.addCandidate (entry.owner, entry.obfuscated) ⟨entry.first, entry.last, entry.plain⟩
  | .field _ => index

def ofEntries (entries : List Entry) : NameIndex := entries.foldl add empty

/-- The plain name of a class; a class that is not mapped keeps its name. -/
def plainClass (index : NameIndex) (obfuscated : String) : String := index.classes[obfuscated]?.getD obfuscated

/-- The candidates for a method of a class that is given by its plain name. -/
def candidates (index : NameIndex) (owner obfuscated : String) : List Candidate :=
  index.methods[(owner, obfuscated)]?.getD []

/-- The plain names of the candidates that cover a line; a method without any keeps its name. -/
def plainMethods (index : NameIndex) (owner obfuscated : String) (line : Int) : List String :=
  match (index.candidates owner obfuscated).filter (·.covers line) with
  | [] => [obfuscated]
  | found => found.map (·.plain)

def find (index : NameIndex) (target : Target) : Finding :=
  let owner := index.plainClass target.className
  ⟨owner, match target.methodName with
    | none => []
    | some method => index.plainMethods owner method target.lineNumber⟩

def classCount (index : NameIndex) : Nat := index.classes.size

def methodCount (index : NameIndex) : Nat := index.methods.size

def candidateCount (index : NameIndex) : Nat := (index.methods.toList.flatMap (·.2)).length

/-- The methods with their candidates, class by class, in code point order. -/
def methodsByOwner (index : NameIndex) : List (String × List (String × List Candidate)) :=
  (index.methods.toList.splitBy fun before after => before.1.1 == after.1.1).filterMap fun group =>
    group.head?.map fun first => (first.1.1, group.map fun method => (method.1.2, method.2))

end NameIndex

end Deobfuscator
