import Deobfuscator.Text.Hexadecimal

/-!
UTF-8 read one byte at a time. A sequence is well-formed when it is the shortest form of a code point that is not a
surrogate. `scan` cuts bytes into characters and malformed spans: a malformed span is a byte that starts no sequence, or
the longest proper beginning of a sequence that its next byte does not continue. What is undecided about the last bytes
is part of the state, so bytes that arrive in pieces scan as they do in one piece.
-/

namespace Deobfuscator.Text.Utf8

/-- What is wrong with a malformed span. -/
inductive Reason where
  | invalidStart
  | invalidContinuation
  | unexpectedEnd
  deriving DecidableEq, Repr

def Reason.text : Reason → String
  | .invalidStart => "invalid start byte"
  | .invalidContinuation => "invalid continuation byte"
  | .unexpectedEnd => "unexpected end of data"

/-- A piece of scanned bytes. -/
inductive Item where
  | char (c : Char)
  /-- A span of this size that starts with `lead` and is part of no well-formed sequence. -/
  | malformed (lead : UInt8) (size : Nat) (reason : Reason)
  deriving DecidableEq, Repr

def Item.size : Item → Nat
  | .char c => c.utf8Size
  | .malformed _ size _ => size

/-- A sequence of which some bytes are still owed: its first byte, the bytes seen and owed, the range of the next byte
and the code point bits read so far. -/
structure Sequence where
  lead : UInt8
  seen : Nat
  owed : Nat
  low : UInt8
  high : UInt8
  bits : Nat
  deriving DecidableEq, Repr

/-- What is still undecided about the last bytes. -/
inductive Pending where
  | inside (sequence : Sequence)
  /-- The byte ED and a second byte that makes it a surrogate. They are malformed, but this shows only when another byte
  or the end follows. -/
  | surrogate (second : UInt8)
  deriving DecidableEq, Repr

/-- The sequence that a byte starts. The range of the second byte shuts out longer forms of smaller code points, the
surrogates and what lies above 10FFFF. -/
def lead? (byte : UInt8) : Option Sequence :=
  let code := byte.toNat
  if 0xC2 ≤ code && code ≤ 0xDF then some ⟨byte, 1, 1, 0x80, 0xBF, code - 0xC0⟩
  else if code == 0xE0 then some ⟨byte, 1, 2, 0xA0, 0xBF, 0⟩
  else if code == 0xED then some ⟨byte, 1, 2, 0x80, 0x9F, code - 0xE0⟩
  else if 0xE1 ≤ code && code ≤ 0xEF then some ⟨byte, 1, 2, 0x80, 0xBF, code - 0xE0⟩
  else if code == 0xF0 then some ⟨byte, 1, 3, 0x90, 0xBF, 0⟩
  else if 0xF1 ≤ code && code ≤ 0xF3 then some ⟨byte, 1, 3, 0x80, 0xBF, code - 0xF0⟩
  else if code == 0xF4 then some ⟨byte, 1, 3, 0x80, 0x8F, code - 0xF0⟩
  else none

/-- A byte after decided ones. -/
def start (byte : UInt8) : List Item × Option Pending :=
  if byte.toNat < 0x80 then ([.char (Char.ofNat byte.toNat)], none)
  else match lead? byte with
    | some sequence => ([], some (.inside sequence))
    | none => ([.malformed byte 1 .invalidStart], none)

/-- The malformed spans of a surrogate's first two bytes. -/
def surrogateItems (second : UInt8) : List Item :=
  [.malformed 0xED 1 .invalidContinuation, .malformed second 1 .invalidStart]

/-- A byte that continues a sequence. -/
def Sequence.extend (sequence : Sequence) (byte : UInt8) : List Item × Option Pending :=
  let bits := 64 * sequence.bits + (byte.toNat - 0x80)
  if sequence.owed ≤ 1 then ([.char (Char.ofNat bits)], none)
  else ([], some (.inside ⟨sequence.lead, sequence.seen + 1, sequence.owed - 1, 0x80, 0xBF, bits⟩))

/-- The next byte. One that does not continue the sequence in progress ends it and is a byte after decided ones. -/
def step : Option Pending → UInt8 → List Item × Option Pending
  | none, byte => start byte
  | some (.surrogate second), byte =>
    let (items, next) := start byte
    (surrogateItems second ++ items, next)
  | some (.inside sequence), byte =>
    if sequence.low ≤ byte && byte ≤ sequence.high then sequence.extend byte
    else if sequence.lead == 0xED && sequence.seen == 1 && 0xA0 ≤ byte && byte ≤ 0xBF then ([], some (.surrogate byte))
    else
      let (items, next) := start byte
      (.malformed sequence.lead sequence.seen .invalidContinuation :: items, next)

/-- The items that bytes complete, and what is still undecided after them. -/
def scan : Option Pending → List UInt8 → List Item × Option Pending
  | pending, [] => ([], pending)
  | pending, byte :: rest =>
    let (items, next) := step pending byte
    let (more, last) := scan next rest
    (items ++ more, last)

/-- The end of the bytes decides about the last of them: they are malformed. -/
def finish : Option Pending → List Item
  | none => []
  | some (.inside sequence) => [.malformed sequence.lead sequence.seen .unexpectedEnd]
  | some (.surrogate second) => surrogateItems second

def items (bytes : List UInt8) : List Item :=
  let (complete, pending) := scan none bytes
  complete ++ finish pending

/-- A malformed span refused: its first byte, the position of that byte, its size and what is wrong. -/
structure Fault where
  lead : UInt8
  position : Nat
  size : Nat
  reason : Reason
  deriving DecidableEq, Repr

def Fault.message (fault : Fault) : String :=
  let span :=
    if fault.size ≤ 1 then
      "byte 0x" ++ String.ofList (hexDigits 2 fault.lead.toNat) ++ " in position " ++ toString fault.position
    else "bytes in position " ++ toString fault.position ++ "-" ++ toString (fault.position + fault.size - 1)
  "'utf-8' codec can't decode " ++ span ++ ": " ++ fault.reason.text

/-- The characters of items that hold no malformed span, else the first such span; positions count from `position`. -/
def strictly (position : Nat) : List Item → Except Fault (List Char)
  | [] => .ok []
  | .char c :: rest => (strictly (position + c.utf8Size) rest).map (c :: ·)
  | .malformed lead size reason :: _ => .error ⟨lead, position, size, reason⟩

/-- A malformed span reads as one replacement character. -/
def Item.replaced : Item → Char
  | .char c => c
  | .malformed .. => '\uFFFD'

/-- Reads any bytes, with one replacement character for each malformed span. -/
def decodeLossy (bytes : List UInt8) : List Char := (items bytes).map Item.replaced

/-- The UTF-8 form of a text. -/
def encode (text : List Char) : List UInt8 := text.flatMap String.utf8EncodeChar

theorem scan_append (pending : Option Pending) (front back : List UInt8) :
    scan pending (front ++ back) =
      ((scan pending front).1 ++ (scan (scan pending front).2 back).1, (scan (scan pending front).2 back).2) := by
  induction front generalizing pending with
  | nil => rfl
  | cons byte rest ih => simp [scan, ih]

end Deobfuscator.Text.Utf8
