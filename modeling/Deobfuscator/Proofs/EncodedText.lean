import Deobfuscator.Text.Utf8

/-! The UTF-8 form of a text scans to the characters of that text. A character is
a first byte and the bytes that this one owes, and these carry six bits each. -/

namespace Deobfuscator.Proofs.EncodedText
open Text Utf8

/-- A byte that continues a sequence, with the lowest six bits of a number. -/
def tailByte (n : Nat) : UInt8 := UInt8.ofNat (n % 0x40 + 0x80)

/-- The bits of a sequence after more of its bytes. -/
def bitsAfter (bits : Nat) (bytes : List UInt8) : Nat :=
  bytes.foldl (fun bits byte => 64 * bits + (byte.toNat - 0x80)) bits

theorem tailByte_toNat (n : Nat) : (tailByte n).toNat = n % 64 + 0x80 := by
  rw [tailByte, UInt8.toNat_ofNat']
  omega

theorem le_tailByte {bound : UInt8} {n : Nat} (below : bound.toNat ≤ n % 64 + 0x80) : bound ≤ tailByte n := by
  rw [UInt8.le_iff_toNat_le, tailByte_toNat]
  exact below

theorem tailByte_le {bound : UInt8} {n : Nat} (above : n % 64 + 0x80 ≤ bound.toNat) : tailByte n ≤ bound := by
  rw [UInt8.le_iff_toNat_le, tailByte_toNat]
  exact above

theorem tailByte_within (n : Nat) : 0x80 ≤ tailByte n ∧ tailByte n ≤ 0xBF := by
  have range : n % 64 ≤ 63 := Nat.le_of_lt_succ (Nat.mod_lt n (by decide))
  exact ⟨le_tailByte (Nat.le_add_left _ _), tailByte_le (Nat.add_le_add_right range 0x80)⟩

theorem bitsAfter_cons (bits : Nat) (byte : UInt8) (bytes : List UInt8) :
    bitsAfter bits (byte :: bytes) = bitsAfter (64 * bits + (byte.toNat - 0x80)) bytes := by
  rw [bitsAfter, List.foldl_cons, bitsAfter]

theorem bitsAfter_tail (bits n : Nat) (bytes : List UInt8) :
    bitsAfter bits (tailByte n :: bytes) = bitsAfter (64 * bits + n % 64) bytes := by
  rw [bitsAfter_cons, tailByte_toNat, Nat.add_sub_cancel]

theorem scan_inside {sequence : Sequence} {byte : UInt8} (low : sequence.low ≤ byte) (high : byte ≤ sequence.high)
    (rest : List UInt8) : scan (some (.inside sequence)) (byte :: rest) =
      ((sequence.extend byte).1 ++ (scan (sequence.extend byte).2 rest).1, (scan (sequence.extend byte).2 rest).2) := by
  simp [scan, step, low, high]

/-- The bytes that a sequence owes complete its character. Only the first of them
has to be in the range that the sequence sets. -/
theorem scan_owed {sequence : Sequence} {byte : UInt8} {others : List UInt8}
    (owed : sequence.owed = others.length + 1) (low : sequence.low ≤ byte) (high : byte ≤ sequence.high)
    (within : ∀ other ∈ others, 0x80 ≤ other ∧ other ≤ 0xBF) :
    scan (some (.inside sequence)) (byte :: others) =
      ([.char (Char.ofNat (bitsAfter sequence.bits (byte :: others)))], none) := by
  induction others generalizing sequence byte with
  | nil =>
    have last : sequence.owed ≤ 1 := Nat.le_of_eq owed
    rw [scan_inside low high, Sequence.extend, if_pos last]
    rfl
  | cons next others ih =>
    rw [List.length_cons] at owed
    have more : ¬ sequence.owed ≤ 1 := by omega
    have owed' : sequence.owed - 1 = others.length + 1 := by omega
    obtain ⟨next_low, next_high⟩ := within next List.mem_cons_self
    rw [scan_inside low high, Sequence.extend, if_neg more]
    dsimp only
    rw [ih owed' next_low next_high fun other member => within other (List.mem_cons_of_mem next member),
      List.nil_append, bitsAfter_cons sequence.bits]

theorem lead?_two {byte : UInt8} (low : 0xC2 ≤ byte.toNat) (high : byte.toNat ≤ 0xDF) :
    lead? byte = some ⟨byte, 1, 1, 0x80, 0xBF, byte.toNat - 0xC0⟩ := by
  simp [lead?, low, high]

theorem lead?_three {byte : UInt8} (low : 0xE0 ≤ byte.toNat) (high : byte.toNat ≤ 0xEF) :
    lead? byte = some ⟨byte, 1, 2, if byte.toNat = 0xE0 then 0xA0 else 0x80,
      if byte.toNat = 0xED then 0x9F else 0xBF, byte.toNat - 0xE0⟩ := by
  have two : ¬ byte.toNat ≤ 0xDF := by omega
  rw [lead?]
  by_cases first : byte.toNat = 0xE0
  · simp [first]
  · by_cases surrogate : byte.toNat = 0xED
    · simp [surrogate]
    · have inner : 0xE1 ≤ byte.toNat := by omega
      simp [two, first, surrogate, inner, high]

theorem lead?_four {byte : UInt8} (low : 0xF0 ≤ byte.toNat) (high : byte.toNat ≤ 0xF4) :
    lead? byte = some ⟨byte, 1, 3, if byte.toNat = 0xF0 then 0x90 else 0x80,
      if byte.toNat = 0xF4 then 0x8F else 0xBF, byte.toNat - 0xF0⟩ := by
  have two : ¬ byte.toNat ≤ 0xDF := by omega
  have three : ¬ byte.toNat ≤ 0xEF := by omega
  rw [lead?]
  by_cases first : byte.toNat = 0xF0
  · simp [first]
  · by_cases last : byte.toNat = 0xF4
    · simp [last]
    · have inner : 0xF1 ≤ byte.toNat := by omega
      have inner' : byte.toNat ≤ 0xF3 := by omega
      have zero : byte.toNat ≠ 0xE0 := by omega
      have thirteen : byte.toNat ≠ 0xED := by omega
      simp [two, three, zero, thirteen, first, last, inner, inner']

theorem scan_lead {byte : UInt8} {sequence : Sequence} (above : 0x80 ≤ byte.toNat) (leads : lead? byte = some sequence)
    (rest : List UInt8) : scan none (byte :: rest) = scan (some (.inside sequence)) rest := by
  have multiple : ¬ byte.toNat < 0x80 := Nat.not_lt.mpr above
  simp [scan, step, start, multiple, leads]

theorem byte_toNat {n : Nat} (small : n < 256) : (UInt8.ofNat n).toNat = n := by
  rw [UInt8.toNat_ofNat']
  exact Nat.mod_eq_of_lt small

theorem scan_one {n : Nat} (high : n ≤ 0x7F) : scan none [UInt8.ofNat n] = ([.char (Char.ofNat n)], none) := by
  have value := byte_toNat (n := n) (by omega)
  have single : (UInt8.ofNat n).toNat < 0x80 := by omega
  rw [scan, step, start, if_pos single, value]
  rfl

theorem scan_two {n : Nat} (low : 0x7F < n) (high : n ≤ 0x7FF) :
    scan none [UInt8.ofNat (n / 64 % 0x20 + 0xC0), tailByte n] = ([.char (Char.ofNat n)], none) := by
  have value := byte_toNat (n := n / 64 % 0x20 + 0xC0) (by omega)
  generalize UInt8.ofNat (n / 64 % 0x20 + 0xC0) = lead at value
  obtain ⟨within, within'⟩ := tailByte_within n
  have bits : 64 * (lead.toNat - 0xC0) + n % 64 = n := by omega
  rw [scan_lead (by omega) (lead?_two (by omega) (by omega)), scan_owed rfl within within' (by simp), bitsAfter_tail]
  dsimp only
  rw [bits, bitsAfter, List.foldl_nil]

/-- The second byte is bounded from below where three bytes would be too many, and
from above where the character would be a surrogate. -/
theorem scan_three {n : Nat} (low : 0x7FF < n) (high : n ≤ 0xFFFF) (whole : ¬ (0xD800 ≤ n ∧ n ≤ 0xDFFF)) :
    scan none [UInt8.ofNat (n / 4096 % 0x10 + 0xE0), tailByte (n / 64), tailByte n] =
      ([.char (Char.ofNat n)], none) := by
  have value := byte_toNat (n := n / 4096 % 0x10 + 0xE0) (by omega)
  generalize UInt8.ofNat (n / 4096 % 0x10 + 0xE0) = lead at value
  have within : (if lead.toNat = 0xE0 then 0xA0 else 0x80) ≤ tailByte (n / 64) := by
    split
    next first =>
      refine le_tailByte ?_
      simp only [UInt8.reduceToNat]
      omega
    next => exact (tailByte_within _).1
  have within' : tailByte (n / 64) ≤ (if lead.toNat = 0xED then 0x9F else 0xBF) := by
    split
    next surrogate =>
      refine tailByte_le ?_
      simp only [UInt8.reduceToNat]
      omega
    next => exact (tailByte_within _).2
  have others : ∀ other ∈ [tailByte n], 0x80 ≤ other ∧ other ≤ 0xBF := by
    simpa using tailByte_within n
  have bits : 64 * (64 * (lead.toNat - 0xE0) + n / 64 % 64) + n % 64 = n := by omega
  rw [scan_lead (by omega) (lead?_three (by omega) (by omega)), scan_owed rfl within within' others, bitsAfter_tail,
    bitsAfter_tail]
  dsimp only
  rw [bits, bitsAfter, List.foldl_nil]

/-- The second byte is bounded from below where four bytes would be too many, and
from above where there are no characters. -/
theorem scan_four {n : Nat} (low : 0xFFFF < n) (high : n ≤ 0x10FFFF) :
    scan none [UInt8.ofNat (n / 262144 % 0x08 + 0xF0), tailByte (n / 4096), tailByte (n / 64), tailByte n] =
      ([.char (Char.ofNat n)], none) := by
  have value := byte_toNat (n := n / 262144 % 0x08 + 0xF0) (by omega)
  generalize UInt8.ofNat (n / 262144 % 0x08 + 0xF0) = lead at value
  have within : (if lead.toNat = 0xF0 then 0x90 else 0x80) ≤ tailByte (n / 4096) := by
    split
    next first =>
      refine le_tailByte ?_
      simp only [UInt8.reduceToNat]
      omega
    next => exact (tailByte_within _).1
  have within' : tailByte (n / 4096) ≤ (if lead.toNat = 0xF4 then 0x8F else 0xBF) := by
    split
    next last =>
      refine tailByte_le ?_
      simp only [UInt8.reduceToNat]
      omega
    next => exact (tailByte_within _).2
  have others : ∀ other ∈ [tailByte (n / 64), tailByte n], 0x80 ≤ other ∧ other ≤ 0xBF := by
    simpa using ⟨tailByte_within (n / 64), tailByte_within n⟩
  have bits : 64 * (64 * (64 * (lead.toNat - 0xF0) + n / 4096 % 64) + n / 64 % 64) + n % 64 = n := by omega
  rw [scan_lead (by omega) (lead?_four (by omega) (by omega)), scan_owed rfl within within' others, bitsAfter_tail,
    bitsAfter_tail, bitsAfter_tail]
  dsimp only
  rw [bits, bitsAfter, List.foldl_nil]

theorem toNat_cases (c : Char) : c.toNat ≤ 0x10FFFF ∧ ¬ (0xD800 ≤ c.toNat ∧ c.toNat ≤ 0xDFFF) := by
  have valid := c.valid
  simp only [UInt32.isValidChar, Nat.isValidChar] at valid
  change c.val.toNat ≤ _ ∧ ¬ (_ ≤ c.val.toNat ∧ c.val.toNat ≤ _)
  omega

/-- The form of a character, by the size of its number. -/
theorem encodeChar_eq (c : Char) : String.utf8EncodeChar c =
    if c.toNat ≤ 0x7F then [UInt8.ofNat c.toNat]
    else if c.toNat ≤ 0x7FF then [UInt8.ofNat (c.toNat / 64 % 0x20 + 0xC0), tailByte c.toNat]
    else if c.toNat ≤ 0xFFFF then
      [UInt8.ofNat (c.toNat / 4096 % 0x10 + 0xE0), tailByte (c.toNat / 64), tailByte c.toNat]
    else [UInt8.ofNat (c.toNat / 262144 % 0x08 + 0xF0), tailByte (c.toNat / 4096), tailByte (c.toNat / 64),
      tailByte c.toNat] :=
  rfl

theorem scan_encodeChar (c : Char) : scan none (String.utf8EncodeChar c) = ([.char c], none) := by
  obtain ⟨bound, whole⟩ := toNat_cases c
  have read : scan none (String.utf8EncodeChar c) = ([.char (Char.ofNat c.toNat)], none) := by
    rw [encodeChar_eq]
    split
    next one => exact scan_one one
    next one =>
      split
      next two => exact scan_two (Nat.not_le.mp one) two
      next two =>
        split
        next three => exact scan_three (Nat.not_le.mp two) three whole
        next three => exact scan_four (Nat.not_le.mp three) bound
  rw [read, Char.ofNat_toNat]

/-- The form of a text scans to its characters, and nothing is left undecided. -/
theorem scan_encode (text : List Char) : scan none (encode text) = (text.map .char, none) := by
  induction text with
  | nil => rfl
  | cons c rest ih =>
    rw [encode] at ih
    rw [encode, List.flatMap_cons, scan_append, scan_encodeChar]
    dsimp only
    rw [ih]
    rfl

theorem strictly_chars (position : Nat) (text : List Char) : strictly position (text.map .char) = .ok text := by
  induction text generalizing position with
  | nil => rfl
  | cons c rest ih =>
    rw [List.map_cons, strictly, ih]
    rfl

end Deobfuscator.Proofs.EncodedText
