import Deobfuscator.Template.Attribute
import Deobfuscator.Template.Item

/-!
The name part of a placeholder: which value it stands for. It starts with the name of a value and goes on with accesses
to a part of it, `.attribute` or `[item]`.
-/

namespace Deobfuscator.Template

open Text

inductive Access where
  | attribute (name : List Char)
  | item (key : List Char)
  deriving DecidableEq, Repr

/-- Where the reader of accesses stands; names and keys are collected last character first. -/
inductive AccessState where
  | between
  | inAttribute (name : List Char)
  | inItem (key : List Char)

/-- An access that has been read in full; an empty one is refused. -/
def AccessState.complete : AccessState → List (Except Fault Access)
  | .between => []
  | .inAttribute [] | .inItem [] => [.error .emptyAccess]
  | .inAttribute name => [.ok (.attribute name.reverse)]
  | .inItem key => [.ok (.item key.reverse)]

/-- The accesses of a placeholder. A fault among them is the last that counts. -/
def accesses : AccessState → List Char → List (Except Fault Access)
  | .inItem _, [] => [.error .unclosedItem]
  | state, [] => state.complete
  | .inItem key, c :: rest =>
    if c == ']' then AccessState.complete (.inItem key) ++ accesses .between rest
    else accesses (.inItem (c :: key)) rest
  | .inAttribute name, c :: rest =>
    if c == '.' then AccessState.complete (.inAttribute name) ++ accesses (.inAttribute []) rest
    else if c == '[' then AccessState.complete (.inAttribute name) ++ accesses (.inItem []) rest
    else accesses (.inAttribute (c :: name)) rest
  | .between, c :: rest =>
    if c == '.' then accesses (.inAttribute []) rest
    else if c == '[' then accesses (.inItem []) rest
    else [.error .junkAfterItem]

def Access.apply (value : Value) : Access → Except Fault Value
  | .attribute name => value.attributeOf (String.ofList name)
  | .item key => do value.itemOf (← Key.read key)

/-- The part of a value that accesses ask for, one after the other. -/
def partOf (value : Value) (accesses : List (Except Fault Access)) : Except Fault Value :=
  accesses.foldlM (fun part access => do (← access).apply part) value

/-- The value that the name part of a placeholder stands for, where `version` is the only value with a name. -/
def fieldValue (version name : List Char) : Except Fault Value := do
  let isAccess := fun c => c == '.' || c == '['
  let first := name.takeWhile (!isAccess ·)
  match ← number? first with
  | some index => .error (.noPosition index)
  | none =>
    if first.isEmpty then .error (.noPosition 0)
    else if first != "version".toList then .error (.unknownName (String.ofList first))
    else partOf (.text version) (accesses .between (name.dropWhile (!isAccess ·)))

end Deobfuscator.Template
