/-!
The entries of a mapping table, in table order: class headers, and the methods and fields of the class whose header came
last. Every entry knows the line that holds it, counted from one.
-/

namespace Deobfuscator.Mapping

/-- A class and the name it was given. -/
structure ClassEntry where
  plain : String
  obfuscated : String
  line : Nat
  deriving DecidableEq, Repr

/-- A method of the class `owner`, the name it was given, and the range of lines that the entry is about. -/
structure MethodEntry where
  owner : String
  returnType : String
  plain : String
  arguments : String
  obfuscated : String
  first : Int
  last : Int
  line : Nat
  deriving DecidableEq, Repr

/-- A field of the class `owner` and the name it was given. -/
structure FieldEntry where
  owner : String
  fieldType : String
  plain : String
  obfuscated : String
  line : Nat
  deriving DecidableEq, Repr

inductive Entry where
  | header (entry : ClassEntry)
  | method (entry : MethodEntry)
  | field (entry : FieldEntry)
  deriving DecidableEq, Repr

def Entry.line : Entry → Nat
  | .header entry => entry.line
  | .method entry => entry.line
  | .field entry => entry.line

end Deobfuscator.Mapping
