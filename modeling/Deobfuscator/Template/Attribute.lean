import Deobfuscator.Template.Value

/-!
The attributes of a value: what it tells about itself, and the operations that its kind offers, bound to what they work
on. A kind also has what it offers to its values, unbound, and what it tells about itself comes first.
-/

namespace Deobfuscator.Template

namespace Offer

/-- What is said of an operation itself, whether it is bound or not. -/
def told? (offer : Offer) (name : String) : Option Value :=
  match name with
  | "__name__" => some (.ofString offer.member.name)
  | "__qualname__" => some (.ofString (offer.owner.name ++ "." ++ offer.member.name))
  | "__objclass__" => some (.kind offer.owner)
  | "__doc__" => some (.ofOption offer.member.description?)
  | "__text_signature__" => some (.ofOption offer.member.parameters)
  | _ => none

/-- What a wrapper of a free function tells about itself. -/
def wrapperTold? (offer : Offer) (name : String) : Option Value :=
  match name with
  | "__func__" | "__wrapped__" => some (.bound offer (.kind offer.owner))
  | "__isabstractmethod__" => some .no
  | "__dict__" => some .emptyDictionary
  | _ => none

/-- What a bound operation tells about itself. A bound slot names the kind that offers it, a bound method the kind that
it works for; a free function works on nothing. -/
def boundTold? (offer : Offer) (subject : Value) (name : String) : Option Value :=
  let served : Kind := match subject with
    | .kind known => known
    | _ => subject.kindOf
  match name with
  | "__self__" => some (if offer.member.form == .free then .absent else subject)
  | "__module__" => some .absent
  | _ => ({ offer with owner := if offer.member.form == .slot then offer.owner else served } : Offer).told? name

end Offer

namespace Kind

/-- The description of a kind: its own note, or what it holds in place of one. -/
def description (kind : Kind) : Value :=
  match kind with
  | .kinds => .ofString ("\n".intercalate kindDescription)
  | _ => ((kind.holding? "__doc__").map Offer.value).getD .absent

def told? (kind : Kind) (name : String) : Option Value :=
  match name with
  | "__name__" | "__qualname__" => some (.ofString kind.name)
  | "__module__" => some (.ofString kind.home)
  | "__doc__" => some kind.description
  | "__text_signature__" => some (.ofOption kind.parameters?)
  | "__base__" => some ((kind.base?.map .kind).getD .absent)
  | "__bases__" => some (.group kind.base?.toList)
  | "__mro__" => some (.group kind.lineage)
  | "__dict__" => some (.view kind)
  | "__basicsize__" => some (.number kind.layout.size)
  | "__itemsize__" => some (.number kind.layout.itemSize)
  | "__flags__" => some (.number kind.layout.flags)
  | "__weakrefoffset__" => some (.number kind.layout.references)
  | "__dictoffset__" => some (.number kind.layout.attributes)
  | _ => none

end Kind

namespace Value

/-- What a number tells about itself. It is its own real part and its own numerator. -/
def numberTold? (value : Nat) (name : String) : Option Value :=
  match name with
  | "real" | "numerator" => some (.number value)
  | "imag" => some (.number 0)
  | "denominator" => some (.number 1)
  | _ => none

/-- What a kind with an argument tells about itself. -/
def familyTold? (origin : Kind) (argument : Key) (name : String) : Option Value :=
  match name with
  | "__origin__" => some (.kind origin)
  | "__args__" => some (.arguments argument)
  | "__unpacked__" => some .no
  | "__parameters__" => some (.group [])
  | "__typing_unpacked_tuple_args__" => some .absent
  | _ => none

def told? (value : Value) (name : String) : Option Value :=
  if name == "__class__" then some (.kind value.kindOf)
  else
    match value with
    | .number value => numberTold? value name
    | .no => numberTold? 0 name
    | .kind known => known.told? name
    | .held offer => if offer.member.form == .free then offer.wrapperTold? name else offer.told? name
    | .bound offer subject => offer.boundTold? subject name
    | .family origin argument => familyTold? origin argument name
    | _ => none

/-- What a kind offers, as an attribute of a value of that kind. -/
def attribute? (value : Value) (offer : Offer) : Option Value :=
  match offer.member.form with
  | .property | .field => value.told? offer.member.name
  | .method | .slot => some (.bound offer value)
  | .ofKind => some (.bound offer (.kind value.kindOf))
  | .free => some (.bound offer (.kind offer.owner))
  | .maker | .note => some offer.value

def ownAttribute? (value : Value) (name : String) : Option Value :=
  (value.kindOf.offer? name).bind value.attribute?

/-- What a kind offers to its values, as its own attribute. -/
def offered (kind : Kind) (offer : Offer) : Value :=
  match offer.member.form with
  | .ofKind => .bound offer (.kind kind)
  | .free => .bound offer (.kind offer.owner)
  | _ => offer.value

/-- The attribute of a name of a kind: what it tells about itself, what it offers to its values, and what the kind of
kinds offers to it. -/
def kindAttribute? (kind : Kind) (name : String) : Option Value :=
  match Kind.kinds.offer? name with
  | some offer =>
    if offer.member.isTold then attribute? (.kind kind) offer
    else ((kind.offer? name).map (offered kind)).or (attribute? (.kind kind) offer)
  | none => (kind.offer? name).map (offered kind)

/-- The fault of a kind that has no attribute of a name. -/
def kindLacks (kind : Kind) (name : String) : Fault :=
  if name == "__abstractmethods__" then .unsetAttribute name else .noAttributeOfKind kind name

/-- The names under which a kind with an argument is asked itself. All others are asked of the kind. -/
def familyNames : List String :=
  ["__class__", "__origin__", "__args__", "__unpacked__", "__parameters__", "__typing_unpacked_tuple_args__",
    "__mro_entries__", "__reduce_ex__", "__reduce__", "__copy__", "__deepcopy__"]

/-- The kind that is asked for an attribute of a name in place of the value itself, if there is one. -/
def asked? (value : Value) (name : String) : Option Kind :=
  match value with
  | .kind known => some known
  | .family origin _ => if familyNames.contains name then none else some origin
  | _ => none

def attributeOf (value : Value) (name : String) : Except Fault Value :=
  match value.asked? name with
  | some known => (kindAttribute? known name).elim (.error (kindLacks known name)) .ok
  | none => (value.ownAttribute? name).elim (.error (.noAttribute value.kindOf name)) .ok

end Value

end Deobfuscator.Template
