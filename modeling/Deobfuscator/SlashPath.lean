import Deobfuscator.Text.Pieces

/-!
Paths whose components are separated by slashes. Empty components and single dots carry no meaning and vanish on
reading; two dots stay. Exactly two slashes in front are a root of their own.
-/

namespace Deobfuscator

open Text

inductive Root where
  | relative
  | absolute
  /-- The root of two slashes. -/
  | network
  deriving DecidableEq, Repr

def Root.text : Root → String
  | .relative => ""
  | .absolute => "/"
  | .network => "//"

/-- The root that the slashes in front of a text stand for. -/
def Root.of (text : List Char) : Root :=
  match (text.takeWhile (· == '/')).length with
  | 0 => .relative
  | 2 => .network
  | _ => .absolute

structure SlashPath where
  root : Root
  parts : List String
  deriving DecidableEq, Repr

namespace SlashPath

def isPart (component : List Char) : Bool := !component.isEmpty && component != ['.']

def partsOf (text : List Char) : List String := ((pieces '/' text).filter isPart).map String.ofList

def ofString (text : String) : SlashPath := ⟨Root.of text.toList, partsOf text.toList⟩

/-- What the right path means below the left one. An absolute path stays itself. -/
def join (left right : SlashPath) : SlashPath :=
  if right.root = .relative then ⟨left.root, left.parts ++ right.parts⟩ else right

/-- The text of a path; the empty path is a single dot. -/
def toString (path : SlashPath) : String :=
  let text := path.root.text ++ String.ofList (joined '/' (path.parts.map String.toList))
  if text.isEmpty then "." else text

def name (path : SlashPath) : String := path.parts.getLast?.getD ""

end SlashPath

end Deobfuscator
