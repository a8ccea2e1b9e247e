import Deobfuscator.Frame

/-! Reading a stream with room for so many bytes at a time finds the same frames
as cutting it after each line feed. A line that does not fit is seen in part
only, but what is seen is enough to refuse it, and the rest of it is read too. -/

namespace Deobfuscator.Proofs.FrameLines
open Deobfuscator.Frame

/-- The lines of a stream, cut after each line feed. Bytes after the last line
feed are a line of their own. -/
def lines : List UInt8 → List (List UInt8)
  | [] => []
  | byte :: rest =>
    if byte = lineFeed then [byte] :: lines rest
    else match lines rest with
      | [] => [[byte]]
      | line :: more => (byte :: line) :: more

/-- A whole line is beyond the limit: by its content, by its length, or, if no
line feed ends it, by a single byte already. -/
def Overlong (limit : Nat) (line : List UInt8) : Prop :=
  limit < (content line).length ∨ limit + 2 < line.length ∨ isEnded line = false ∧ limit < line.length

instance (limit : Nat) (line : List UInt8) : Decidable (Overlong limit line) :=
  inferInstanceAs (Decidable (_ ∨ _))

end Deobfuscator.Proofs.FrameLines
