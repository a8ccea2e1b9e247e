import Deobfuscator.Fault

/-!
What a program leaves to others: how its texts and tables are printed.
-/

namespace Deobfuscator.CommandLine

/-- A table of two columns under a title. -/
structure Table where
  title : String
  head : String × String
  rows : List (String × String)
  deriving DecidableEq, Repr

/-- How a program prints: what comes out for a line, for the message of an error that ends the program, and for a table,
whose title may be no good. -/
structure Console where
  line : String → String
  error : String → String
  table : Table → Except Fault String

end Deobfuscator.CommandLine
