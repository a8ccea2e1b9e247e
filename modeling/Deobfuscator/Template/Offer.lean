import Deobfuscator.Template.Kind
import Deobfuscator.Template.Member.Collection
import Deobfuscator.Template.Member.General
import Deobfuscator.Template.Member.Number
import Deobfuscator.Template.Member.Operation
import Deobfuscator.Template.Member.Text

/-!
What kinds offer. A kind offers the members that it holds and those of its lineage; of members of one name, the nearest
one counts.
-/

namespace Deobfuscator.Template

namespace Kind

/-- The members that a kind holds by itself, in the order in which it shows them. -/
def members : Kind → List Member
  | texts => textMembers
  | groups => groupMembers
  | absence => absenceMembers
  | kinds => kindMembers
  | values => valueMembers
  | numbers => numberMembers
  | truths => truthMembers
  | dictionaries => dictionaryMembers
  | views => viewMembers
  | methods => methodMembers
  | slots => slotMembers
  | kindMethods => kindMethodMembers
  | properties => propertyMembers
  | fields => fieldMembers
  | wrappers => wrapperMembers
  | boundMethods => boundMethodMembers
  | boundSlots => boundSlotMembers
  | families => familyMembers

end Kind

/-- A member with the kind that holds it. -/
structure Offer where
  owner : Kind
  member : Member
  deriving DecidableEq, Repr

namespace Kind

/-- What a kind holds, member by member. -/
def holdings (kind : Kind) : List Offer := kind.members.map (⟨kind, ·⟩)

/-- The member of a name that a kind holds by itself. -/
def holding? (kind : Kind) (name : String) : Option Offer := kind.holdings.find? (·.member.name == name)

def offer? (kind : Kind) (name : String) : Option Offer := kind.lineage.findSome? (·.holding? name)

def takesArgument (kind : Kind) : Bool := kind == .kinds || (kind.offer? "__class_getitem__").isSome

end Kind

end Deobfuscator.Template
