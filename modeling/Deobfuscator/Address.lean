/-!
Network addresses.
-/

namespace Deobfuscator

/-- A host, and the number at which a program on it is reached. -/
structure Address where
  host : String
  number : Int
  deriving DecidableEq, Repr

end Deobfuscator
