/-!
The members of kinds: what a kind holds for its values under a name. Most are operations, which say what they do and
with which parameters.
-/

namespace Deobfuscator.Template

/-- What a member is, and what it works on. -/
inductive Form where
  /-- An operation on a value. -/
  | method
  /-- An operation on a value that other operations rely on. -/
  | slot
  /-- An operation on the kind of a value. -/
  | ofKind
  /-- An operation on the kind that holds it, of which it makes a value. -/
  | maker
  /-- An operation on its parameters alone. -/
  | free
  /-- Something that a value tells about itself. -/
  | property
  | field
  /-- No operation: its description is what it holds. -/
  | note
  deriving DecidableEq, Repr

structure Member where
  form : Form
  name : String
  parameters : Option String
  /-- The lines that say what it does; none if it says nothing. -/
  description : List String
  deriving DecidableEq, Repr

def Member.isTold (entry : Member) : Bool := entry.form == .property || entry.form == .field

/-- The member that makes a value of a kind. All kinds that have one describe it alike. -/
def maker : Member :=
  ⟨.maker, "__new__", some "($type, *args, **kwargs)",
    ["Create and return a new object.  See help(type) for accurate signature."]⟩

/-- Properties that say nothing. -/
def properties (names : List String) : List Member := names.map (⟨.property, ·, none, []⟩)

/-- Fields that say nothing. -/
def fields (names : List String) : List Member := names.map (⟨.field, ·, none, []⟩)

end Deobfuscator.Template
