import Deobfuscator.Template.Value

/-!
The items of a value, under a key in square brackets: the characters of a text, the members of a group, what a kind
holds under a name. Some kinds take an argument there.
-/

namespace Deobfuscator.Template

/-- What a key stands for as a value. -/
def Key.value : Key → Value
  | .position index => .number index
  | .name text => .text text

namespace Value

/-- The item of a sequence under a key; `kind` is the kind of the sequence. -/
def itemAt (kind : Kind) (items : List Value) : Key → Except Fault Value
  | .position index => items[index]?.elim (.error (.indexOutOfRange kind)) .ok
  | .name _ => .error (.indexNotNumber kind)

def holdingAt (kind : Kind) (key : Key) : Except Fault Value :=
  let found := match key with
    | .position _ => none
    | .name word => kind.holding? (String.ofList word)
  found.elim (.error (.missingItem key.quotedForm)) fun offer => .ok offer.value

def itemOf (value : Value) (key : Key) : Except Fault Value :=
  match value with
  | .text content => itemAt .texts (content.map fun c => .text [c]) key
  | .group kinds => itemAt .groups (kinds.map .kind) key
  | .arguments argument => itemAt .groups [argument.value] key
  | .kind known => if known.takesArgument then .ok (.family known key) else .error (.noItemsOfKind known)
  | .family origin argument => .error (.notGeneric (shownFamily origin argument))
  | .view known => holdingAt known key
  | .emptyDictionary => .error (.missingItem key.quotedForm)
  | _ => .error (.noItems value.kindOf)

end Value

end Deobfuscator.Template
