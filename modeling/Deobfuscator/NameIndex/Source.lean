import Deobfuscator.Mapping.Bytes
import Deobfuscator.NameIndex

/-!
The indexes of whole mapping tables, which come as lines, as a text or as a file. A table that cannot be read to its end
has no index.
-/

namespace Deobfuscator.NameIndex

open Mapping

def ofReading (reading : Reading) : Attempt Fault NameIndex := ofEntries <$> reading.toAttempt

theorem ofReading_result (reading : Reading) : (ofReading reading).result =
    match reading.fault with
    | some fault => .error fault
    | none => .ok (ofEntries reading.entries) := by
  change (reading.toAttempt.bind fun entries => Attempt.quiet (.ok (ofEntries entries))).result = _
  rw [Reading.toAttempt, Attempt.bind]
  cases reading.fault <;> rfl

def ofLines (lines : List (List Char)) : Attempt Fault NameIndex := ofReading (read lines)

def ofText (text : String) : Attempt Fault NameIndex := ofReading (readText text)

def ofFile (files : FileSystem) (path : String) : Attempt Fault NameIndex := ofReading (readPath files path)

end Deobfuscator.NameIndex
