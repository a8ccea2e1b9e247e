import Deobfuscator.Proofs.EncodedText

/-! What is scanned as characters is the UTF-8 form of these characters, so the text
in front of the first malformed span is the longest that the bytes start with. -/

namespace Deobfuscator.Proofs.DecodedText
open Text Utf8 EncodedText

theorem toNat_ofNat {n : Nat} (valid : n.isValidChar) : (Char.ofNat n).toNat = n := by
  rw [Char.ofNat, dif_pos valid]
  rfl

theorem ofNat_eq (byte : UInt8) {n : Nat} (value : n = byte.toNat) : UInt8.ofNat n = byte := by
  rw [value, UInt8.ofNat_toNat]

theorem tailByte_eq (byte : UInt8) {n : Nat} (low : 0x80 ≤ byte.toNat) (bits : n % 64 = byte.toNat - 0x80) :
    tailByte n = byte := by
  rw [← UInt8.toNat_inj, tailByte_toNat]
  omega

theorem toNat_within {byte low high : UInt8} (within : low ≤ byte ∧ byte ≤ high) :
    low.toNat ≤ byte.toNat ∧ byte.toNat ≤ high.toNat := by
  rwa [UInt8.le_iff_toNat_le, UInt8.le_iff_toNat_le] at within

theorem toNat_within_ite {p q : Prop} [Decidable p] [Decidable q] {byte low low' high high' : UInt8}
    (within : (if p then low' else low) ≤ byte ∧ byte ≤ (if q then high' else high)) :
    (p ∧ low'.toNat ≤ byte.toNat ∨ ¬ p ∧ low.toNat ≤ byte.toNat) ∧
      (q ∧ byte.toNat ≤ high'.toNat ∨ ¬ q ∧ byte.toNat ≤ high.toNat) := by
  have range := toNat_within within
  by_cases first : p <;> by_cases last : q <;> simpa [first, last] using range

theorem encode_two {lead second : UInt8} (low : 0xC2 ≤ lead.toNat) (high : lead.toNat ≤ 0xDF)
    (within : 0x80 ≤ second ∧ second ≤ 0xBF) :
    String.utf8EncodeChar (Char.ofNat (bitsAfter (lead.toNat - 0xC0) [second])) = [lead, second] := by
  have second_range := toNat_within within
  simp only [UInt8.reduceToNat] at second_range
  have value : bitsAfter (lead.toNat - 0xC0) [second] = 64 * (lead.toNat - 0xC0) + (second.toNat - 0x80) := rfl
  generalize bitsAfter (lead.toNat - 0xC0) [second] = n at value
  rw [encodeChar_eq, toNat_ofNat (.inl (by omega)), if_neg (by omega), if_pos (by omega), ofNat_eq lead (by omega),
    tailByte_eq second second_range.1 (by omega)]

theorem encode_three {lead second third : UInt8} (low : 0xE0 ≤ lead.toNat) (high : lead.toNat ≤ 0xEF)
    (within : (if lead.toNat = 0xE0 then 0xA0 else 0x80) ≤ second ∧ second ≤ (if lead.toNat = 0xED then 0x9F else 0xBF))
    (within' : 0x80 ≤ third ∧ third ≤ 0xBF) :
    String.utf8EncodeChar (Char.ofNat (bitsAfter (lead.toNat - 0xE0) [second, third])) = [lead, second, third] := by
  have second_range := toNat_within_ite within
  have third_range := toNat_within within'
  simp only [UInt8.reduceToNat] at second_range third_range
  have value : bitsAfter (lead.toNat - 0xE0) [second, third] =
      64 * (64 * (lead.toNat - 0xE0) + (second.toNat - 0x80)) + (third.toNat - 0x80) := rfl
  generalize bitsAfter (lead.toNat - 0xE0) [second, third] = n at value
  have valid : n.isValidChar := by
    rw [Nat.isValidChar]
    omega
  rw [encodeChar_eq, toNat_ofNat valid, if_neg (by omega), if_neg (by omega), if_pos (by omega),
    ofNat_eq lead (by omega), tailByte_eq second (by omega) (by omega), tailByte_eq third (by omega) (by omega)]

theorem encode_four {lead second third fourth : UInt8} (low : 0xF0 ≤ lead.toNat) (high : lead.toNat ≤ 0xF4)
    (within : (if lead.toNat = 0xF0 then 0x90 else 0x80) ≤ second ∧ second ≤ (if lead.toNat = 0xF4 then 0x8F else 0xBF))
    (within' : 0x80 ≤ third ∧ third ≤ 0xBF) (within'' : 0x80 ≤ fourth ∧ fourth ≤ 0xBF) :
    String.utf8EncodeChar (Char.ofNat (bitsAfter (lead.toNat - 0xF0) [second, third, fourth])) =
      [lead, second, third, fourth] := by
  have second_range := toNat_within_ite within
  have third_range := toNat_within within'
  have fourth_range := toNat_within within''
  simp only [UInt8.reduceToNat] at second_range third_range fourth_range
  have value : bitsAfter (lead.toNat - 0xF0) [second, third, fourth] =
      64 * (64 * (64 * (lead.toNat - 0xF0) + (second.toNat - 0x80)) + (third.toNat - 0x80)) + (fourth.toNat - 0x80) :=
    rfl
  generalize bitsAfter (lead.toNat - 0xF0) [second, third, fourth] = n at value
  have valid : n.isValidChar := by
    rw [Nat.isValidChar]
    omega
  rw [encodeChar_eq, toNat_ofNat valid, if_neg (by omega), if_neg (by omega), if_neg (by omega),
    ofNat_eq lead (by omega), tailByte_eq second (by omega) (by omega), tailByte_eq third (by omega) (by omega),
    tailByte_eq fourth (by omega) (by omega)]

/-- A sequence in progress after these bytes: whatever bytes complete it make a
character whose form is all of them. -/
structure Leads (front : List UInt8) (sequence : Sequence) : Prop where
  owes : 0 < sequence.owed
  completed : ∀ byte others, sequence.owed = others.length + 1 → sequence.low ≤ byte ∧ byte ≤ sequence.high →
    (∀ other ∈ others, 0x80 ≤ other ∧ other ≤ 0xBF) →
      String.utf8EncodeChar (Char.ofNat (bitsAfter sequence.bits (byte :: others))) = front ++ byte :: others

theorem lead?_range {byte : UInt8} {sequence : Sequence} (leads : lead? byte = some sequence) :
    0xC2 ≤ byte.toNat ∧ byte.toNat ≤ 0xF4 := by
  revert leads
  fun_cases lead? byte <;> simp_all <;> omega

theorem lead?_leads {byte : UInt8} {sequence : Sequence} (leads : lead? byte = some sequence) :
    Leads [byte] sequence := by
  obtain ⟨low, high⟩ := lead?_range leads
  by_cases two : byte.toNat ≤ 0xDF
  · rw [lead?_two low two] at leads
    cases leads
    refine ⟨Nat.one_pos, ?_⟩
    rintro second (_ | ⟨other, others⟩) owed within others_within
    · exact encode_two low two within
    · cases owed
  · by_cases three : byte.toNat ≤ 0xEF
    · rw [lead?_three (by omega) three] at leads
      cases leads
      refine ⟨Nat.two_pos, ?_⟩
      rintro second (_ | ⟨third, _ | ⟨other, others⟩⟩) owed within others_within
      · cases owed
      · exact encode_three (by omega) three within (others_within third List.mem_cons_self)
      · cases owed
    · rw [lead?_four (by omega) high] at leads
      cases leads
      refine ⟨Nat.succ_pos 2, ?_⟩
      rintro second (_ | ⟨third, _ | ⟨fourth, _ | ⟨other, others⟩⟩⟩) owed within others_within
      · cases owed
      · cases owed
      · exact encode_four (by omega) high within (others_within third (by simp)) (others_within fourth (by simp))
      · cases owed

/-- The bytes of the sequence in progress, if there is one. -/
inductive Holds : List UInt8 → Option Pending → Prop where
  | nothing : Holds [] none
  | sequence {front : List UInt8} {sequence : Sequence} (leads : Leads front sequence) :
      Holds front (some (.inside sequence))

/-- What scanned bytes are: the form of a text and a sequence in progress, or the form
of a text and something malformed. -/
inductive Scanned (bytes : List UInt8) : List Item → Option Pending → Prop where
  | whole (text : List Char) {held : List UInt8} {pending : Option Pending} (written : encode text ++ held = bytes)
      (holds : Holds held pending) : Scanned bytes (text.map .char) pending
  | surrogate (text : List Char) (written : encode text <+: bytes) (second : UInt8) :
      Scanned bytes (text.map .char) (some (.surrogate second))
  | malformed (text : List Char) (written : encode text <+: bytes) (lead : UInt8) (size : Nat) (reason : Reason)
      (more : List Item) (pending : Option Pending) :
      Scanned bytes (text.map .char ++ .malformed lead size reason :: more) pending

theorem encode_append (front back : List Char) : encode (front ++ back) = encode front ++ encode back :=
  List.flatMap_append

theorem encode_singleton (c : Char) : encode [c] = String.utf8EncodeChar c :=
  List.append_nil _

/-- A byte after decided ones is a character, or starts a sequence, or is malformed. -/
theorem start_cases (byte : UInt8) :
    (∃ c, start byte = ([.char c], none) ∧ encode [c] = [byte]) ∨
      (∃ sequence, start byte = ([], some (.inside sequence)) ∧ Leads [byte] sequence) ∨
        start byte = ([.malformed byte 1 .invalidStart], none) := by
  rw [start]
  split
  next single =>
    refine .inl ⟨_, rfl, ?_⟩
    rw [encode_singleton, encodeChar_eq, toNat_ofNat (.inl (by omega)), if_pos (by omega), UInt8.ofNat_toNat]
  next =>
    cases leads : lead? byte with
    | some sequence => exact .inr (.inl ⟨sequence, rfl, lead?_leads leads⟩)
    | none => exact .inr (.inr rfl)

/-- A byte that continues a sequence completes its character, or leaves it in progress. -/
theorem extend_cases {front : List UInt8} {sequence : Sequence} (leads : Leads front sequence) {byte : UInt8}
    (within : sequence.low ≤ byte ∧ byte ≤ sequence.high) :
    (∃ c, sequence.extend byte = ([.char c], none) ∧ encode [c] = front ++ [byte]) ∨
      ∃ next, sequence.extend byte = ([], some (.inside next)) ∧ Leads (front ++ [byte]) next := by
  obtain ⟨owes, completed⟩ := leads
  rw [Sequence.extend]
  split
  next last =>
    have owed : sequence.owed = 0 + 1 := Nat.le_antisymm last owes
    refine .inl ⟨_, rfl, ?_⟩
    rw [encode_singleton]
    exact completed byte [] owed within (by simp)
  next more =>
    refine .inr ⟨_, rfl, Nat.sub_pos_of_lt (Nat.not_le.mp more), ?_⟩
    intro next others owed next_within others_within
    change sequence.owed - 1 = others.length + 1 at owed
    have owed' : sequence.owed = (next :: others).length + 1 := by
      rw [List.length_cons]
      omega
    -- What completes the rest of the sequence completes all of it.
    have form := completed byte (next :: others) owed' within (List.forall_mem_cons.mpr ⟨next_within, others_within⟩)
    rw [bitsAfter_cons] at form
    rw [List.append_assoc]
    exact form

theorem Scanned.step {bytes : List UInt8} {items : List Item} {pending : Option Pending}
    (scanned : Scanned bytes items pending) (byte : UInt8) :
    Scanned (bytes ++ [byte]) (items ++ (step pending byte).1) (step pending byte).2 := by
  have later {text : List Char} (written : encode text <+: bytes) : encode text <+: bytes ++ [byte] :=
    written.trans (List.prefix_append _ _)
  cases scanned with
  | @whole text held _ written holds =>
    subst written
    cases holds with
    | nothing =>
      rw [Utf8.step, List.append_nil]
      obtain ⟨c, started, form⟩ | ⟨sequence, started, leads⟩ | started := start_cases byte
      · rw [started, ← List.map_singleton (f := Item.char), ← List.map_append, ← form, ← encode_append]
        exact .whole _ (List.append_nil _) .nothing
      · rw [started, List.append_nil]
        exact .whole text rfl (.sequence leads)
      · rw [started]
        exact .malformed text (List.prefix_append _ _) _ _ _ _ _
    | sequence leads =>
      have written := later (List.prefix_append (encode text) held)
      rw [Utf8.step]
      split
      next within =>
        rw [Bool.and_eq_true, decide_eq_true_iff, decide_eq_true_iff] at within
        obtain ⟨c, extended, form⟩ | ⟨next, extended, leads⟩ := extend_cases leads within
        · rw [extended, ← List.map_singleton (f := Item.char), ← List.map_append, List.append_assoc, ← form,
            ← encode_append]
          exact .whole _ (List.append_nil _) .nothing
        · rw [extended, List.append_nil, List.append_assoc]
          exact .whole text rfl (.sequence leads)
      next =>
        split
        next =>
          rw [List.append_nil]
          exact .surrogate text written byte
        next => exact .malformed text written _ _ _ _ _
  -- What is malformed stays so, whatever follows.
  | surrogate text written second => exact .malformed text (later written) _ _ _ _ _
  | malformed text written lead size reason more pending =>
    rw [List.append_assoc, List.cons_append]
    exact .malformed text (later written) _ _ _ _ _

theorem Scanned.scan {front : List UInt8} {items : List Item} {pending : Option Pending}
    (scanned : Scanned front items pending) (bytes : List UInt8) :
    Scanned (front ++ bytes) (items ++ (scan pending bytes).1) (scan pending bytes).2 := by
  induction bytes generalizing front items pending with
  | nil =>
    rw [Utf8.scan, List.append_nil, List.append_nil]
    exact scanned
  | cons byte rest ih =>
    have later := ih (scanned.step byte)
    rw [List.append_assoc, List.append_assoc] at later
    exact later

/-- Any bytes are the form of a text, or start with the form of a text in front of a
malformed span. -/
theorem items_cases (bytes : List UInt8) :
    (∃ text, encode text = bytes ∧ items bytes = text.map .char) ∨
      ∃ text lead size reason more, encode text <+: bytes ∧
        items bytes = text.map .char ++ .malformed lead size reason :: more := by
  have scanned : Scanned bytes (scan none bytes).1 (scan none bytes).2 := Scanned.scan (.whole [] rfl .nothing) bytes
  rw [items]
  generalize Utf8.scan none bytes = ended at scanned
  obtain ⟨complete, pending⟩ := ended
  dsimp only at scanned ⊢
  cases scanned with
  | whole text written holds =>
    cases holds with
    | nothing =>
      rw [List.append_nil] at written
      exact .inl ⟨text, written, List.append_nil _⟩
    | sequence leads =>
      subst written
      exact .inr ⟨text, _, _, _, _, List.prefix_append _ _, rfl⟩
  | surrogate text written second => exact .inr ⟨text, _, _, _, _, written, rfl⟩
  | malformed text written lead size reason more =>
    rw [List.append_assoc, List.cons_append]
    exact .inr ⟨text, _, _, _, _, written, rfl⟩

variable {bytes : List UInt8} {front text other : List Char} {lead : UInt8} {size : Nat} {reason : Reason}
  {others more : List Item}

/-- Characters in front of items that hold a malformed span are in front of that span. -/
theorem chars_before
    (same : front.map .char ++ others = text.map .char ++ .malformed lead size reason :: more) :
    ∃ back, front ++ back = text ∧ others = back.map .char ++ .malformed lead size reason :: more := by
  induction front generalizing text with
  | nil => exact ⟨text, rfl, same⟩
  | cons c front ih =>
    cases text with
    | nil => cases same
    | cons first text =>
      obtain ⟨first_same, rest_same⟩ := List.cons.inj same
      cases first_same
      obtain ⟨back, rfl, others_same⟩ := ih rest_same
      exact ⟨back, rfl, others_same⟩

/-- The longest form of a text that the bytes start with. -/
structure IsLongest (bytes : List UInt8) (text : List Char) : Prop where
  start : encode text <+: bytes
  longest : ∀ other, encode other <+: bytes → (encode other).length ≤ (encode text).length

theorem encode_injective (same : encode text = encode other) : text = other := by
  have scanned := congrArg (scan none) same
  rw [scan_encode, scan_encode, Prod.mk.injEq] at scanned
  exact (List.map_inj_right fun _ _ => Item.char.inj).mp scanned.1

theorem IsLongest.unique (longest : IsLongest bytes text) (longest' : IsLongest bytes other) : text = other := by
  have length := Nat.le_antisymm (longest'.longest text longest.start) (longest.longest other longest'.start)
  exact encode_injective (List.IsPrefix.eq_of_length
    (List.prefix_of_prefix_length_le longest.start longest'.start (Nat.le_of_eq length)) length)

theorem isLongest_of_items (start : encode text <+: bytes)
    (scanned : items bytes = text.map .char ++ .malformed lead size reason :: more) : IsLongest bytes text := by
  refine ⟨start, ?_⟩
  rintro other ⟨rest, rfl⟩
  rw [items, scan_append, scan_encode] at scanned
  dsimp only at scanned
  rw [List.append_assoc] at scanned
  obtain ⟨back, rfl, _⟩ := chars_before scanned
  rw [encode_append, List.length_append]
  exact Nat.le_add_right _ _

end Deobfuscator.Proofs.DecodedText
