import Deobfuscator.Connection
import Deobfuscator.Proofs.FrameLines

/-! A connection answers the lines of its stream one by one, up to the first that
is overlong. The stream is cut by line feeds alone; how much of a line is read at
a time cannot be told from the exchange. -/

namespace Deobfuscator.Proofs.ConnectionFraming
open Text FrameLines

variable {σ : Type}

def accepted (limit : Nat) (rows : List (List UInt8)) : List (List UInt8) :=
  rows.takeWhile fun line => ¬ Overlong limit line

/-- The first overlong line and all that follow it. -/
def refused (limit : Nat) (rows : List (List UInt8)) : List (List UInt8) :=
  rows.dropWhile fun line => ¬ Overlong limit line

end Deobfuscator.Proofs.ConnectionFraming
