/-!
The kinds of the values that a placeholder can reach: their names, what they derive from, and how much room their
values take.
-/

namespace Deobfuscator.Template

inductive Kind where
  | texts
  | groups
  | absence
  | kinds
  /-- The kind that all kinds derive from. -/
  | values
  | numbers
  | truths
  | dictionaries
  | views
  /-- The kinds of what a kind holds: methods, slots, methods that work on a kind, properties, fields, and wrappers of
  free functions. -/
  | methods
  | slots
  | kindMethods
  | properties
  | fields
  | wrappers
  /-- The kinds of methods and slots that are bound to a value. -/
  | boundMethods
  | boundSlots
  /-- The kind of kinds with an argument. -/
  | families
  deriving DecidableEq, Repr

/-- How much room the values of a kind take, in bytes, and what else is known of them: the flags of the kind, and
where the references to a value and its own attributes are kept. -/
structure Layout where
  size : Nat
  itemSize : Nat
  flags : Nat
  references : Nat
  attributes : Nat
  deriving DecidableEq, Repr

namespace Kind

def name : Kind → String
  | texts => "str"
  | groups => "tuple"
  | absence => "NoneType"
  | kinds => "type"
  | values => "object"
  | numbers => "int"
  | truths => "bool"
  | dictionaries => "dict"
  | views => "mappingproxy"
  | methods => "method_descriptor"
  | slots => "wrapper_descriptor"
  | kindMethods => "classmethod_descriptor"
  | properties => "getset_descriptor"
  | fields => "member_descriptor"
  | wrappers => "staticmethod"
  | boundMethods => "builtin_function_or_method"
  | boundSlots => "method-wrapper"
  | families => "GenericAlias"

/-- Where a kind is defined. -/
def home : Kind → String
  | families => "types"
  | _ => "builtins"

/-- The name of a kind in messages. -/
def fullName (kind : Kind) : String :=
  match kind with
  | families => kind.home ++ "." ++ kind.name
  | _ => kind.name

/-- A kind and all that it derives from, the nearest first. -/
def lineage : Kind → List Kind
  | values => [values]
  | truths => [truths, numbers, values]
  | kind => [kind, values]

/-- What a kind derives from directly. -/
def base? (kind : Kind) : Option Kind := kind.lineage.tail.head?

/-- The parameters from which a kind makes a value, if it says so. -/
def parameters? : Kind → Option String
  | groups => some "(iterable=(), /)"
  | values => some "()"
  | _ => none

def layout : Kind → Layout
  | texts => ⟨80, 0, 273159424, 0, 0⟩
  | groups => ⟨24, 8, 71849248, 0, 0⟩
  | absence => ⟨16, 0, 528640, 0, 0⟩
  | kinds => ⟨904, 40, 2148031744, 368, 264⟩
  | values => ⟨16, 0, 529664, 0, 0⟩
  | numbers => ⟨24, 4, 21501184, 0, 0⟩
  | truths => ⟨32, 4, 21500160, 0, 0⟩
  | dictionaries => ⟨48, 0, 541611328, 0, 0⟩
  | views => ⟨24, 0, 545088, 0, 0⟩
  | wrappers => ⟨32, 0, 546048, 0, 24⟩
  | methods => ⟨56, 0, 678272, 0, 0⟩
  | slots => ⟨56, 0, 676224, 0, 0⟩
  | boundMethods => ⟨56, 0, 547200, 40, 0⟩
  | boundSlots => ⟨32, 0, 545152, 0, 0⟩
  | properties | fields => ⟨48, 0, 545152, 0, 0⟩
  | kindMethods => ⟨56, 0, 545152, 0, 0⟩
  | families => ⟨64, 0, 548096, 40, 0⟩

end Kind

end Deobfuscator.Template
