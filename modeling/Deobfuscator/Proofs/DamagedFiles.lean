import Deobfuscator.Proofs.DecodedText
import Deobfuscator.Proofs.FileReading
import Deobfuscator.Proofs.FirstBadLine
import Mathlib.Data.List.Infix

/-! Of a file that is no UTF-8 only lines in front of the first malformed span are read,
wherever the span falls among the lines and the chunks, so no entry is read of a line
that is damaged. -/

namespace Deobfuscator.Proofs.DamagedFiles
open Text Mapping TableReading TableSegments FirstBadLine EncodedText DecodedText FileReading

theorem linesFrom_append (line : OpenLine) (front back : List Char) :
    linesFrom line (front ++ back) = (line.feed front).1 ++ linesFrom (line.feed front).2 back := by
  rw [← feed_finish, ← feed_finish, feed_append, List.append_assoc]

theorem isPrefix_feed (text : List Char) : (OpenLine.empty.feed text).1 <+: fileLines text := by
  change _ <+: linesFrom .empty text
  rw [← feed_finish]
  exact List.prefix_append _ _

theorem strictly_ok {position : Nat} {items : List Utf8.Item} {text : List Char}
    (decoded : Utf8.strictly position items = .ok text) : items = text.map .char := by
  induction items generalizing position text with
  | nil =>
    cases decoded
    rfl
  | cons item rest ih =>
    cases item with
    | malformed lead size reason => cases decoded
    | char c =>
      rw [Utf8.strictly] at decoded
      cases more : Utf8.strictly (position + c.utf8Size) rest with
      | error fault =>
        rw [more] at decoded
        cases decoded
      | ok text =>
        rw [more] at decoded
        cases decoded
        exact congrArg (Utf8.Item.char c :: ·) (ih more)

/-- Characters in front of a malformed span complete the lines that can be read. -/
theorem readChunks_malformed (pending : Option Utf8.Pending) (line : OpenLine) {parts : List (List UInt8)}
    {text : List Char} {lead : UInt8} {size : Nat} {reason : Utf8.Reason} {more : List Utf8.Item}
    (scanned : (Utf8.scan pending parts.flatten).1 ++ Utf8.finish (Utf8.scan pending parts.flatten).2 =
      text.map .char ++ .malformed lead size reason :: more) :
    (readChunks true pending line parts).1 <+: (line.feed text).1 ∧
      ∃ fault, (readChunks true pending line parts).2 = some fault := by
  -- On the chunks, as for a file that can be decoded: what is undecided after a chunk,
  -- as a character or as a line, is what the others start from.
  induction parts generalizing pending line text with
  | nil =>
    rw [readChunks]
    cases decoded : Utf8.strictly 0 (Utf8.finish pending) with
    | error fault => exact ⟨List.nil_prefix, fault, rfl⟩
    | ok chars =>
      have same : chars.map .char ++ [] = text.map .char ++ .malformed lead size reason :: more := by
        rw [← strictly_ok decoded, List.append_nil]
        exact scanned
      obtain ⟨back, _, none⟩ := chars_before same
      exact absurd none (by simp)
  | cons chunk rest ih =>
    rw [List.flatten_cons, Utf8.scan_append] at scanned
    rw [readChunks]
    dsimp only at scanned ⊢
    cases decoded : Utf8.strictly 0 (Utf8.scan pending chunk).1 with
    | error fault => exact ⟨List.nil_prefix, fault, rfl⟩
    | ok front =>
      rw [strictly_ok decoded, List.append_assoc] at scanned
      obtain ⟨back, rfl, rest_scanned⟩ := chars_before scanned
      obtain ⟨complete, fault⟩ := ih (Utf8.scan pending chunk).2 (line.feed front).2 rest_scanned
      rw [feed_append]
      exact ⟨(List.prefix_append_right_inj _).mpr complete, fault⟩

/-- A file that ends inside the byte order mark. -/
def IsCutMark (bytes : List UInt8) : Prop := bytes = byteOrderMark.take 1 ∨ bytes = byteOrderMark.take 2

theorem items_mark (bytes : List UInt8) : Utf8.items (byteOrderMark ++ bytes) = .char '\uFEFF' :: Utf8.items bytes := by
  rw [Utf8.items, scan_mark]
  rfl

theorem unmarked_plain {text : List Char} (plain : ¬ byteOrderMark <+: Utf8.encode text) : unmarked text = text := by
  fun_cases unmarked text with
  | case1 rest => exact absurd ⟨Utf8.encode rest, (encode_mark rest).symm⟩ plain
  | case2 => rfl

theorem byteLines_malformed {bytes : List UInt8} {text : List Char} {lead : UInt8} {size : Nat} {reason : Utf8.Reason}
    {more : List Utf8.Item} (start : Utf8.encode text <+: bytes)
    (scanned : Utf8.items bytes = text.map .char ++ .malformed lead size reason :: more) :
    (byteLines bytes).1 <+: (OpenLine.empty.feed (unmarked text)).1 ∧
      (¬ IsCutMark bytes → ∃ fault, (byteLines bytes).2 = some fault) := by
  by_cases cut : IsCutMark bytes
  · have nothing : byteLines bytes = ([], none) := by rcases cut with rfl | rfl <;> rfl
    rw [nothing]
    exact ⟨List.nil_prefix, absurd cut⟩
  · have whole := chunks_flatten (not_or.mp cut).1 (not_or.mp cut).2
    have malformed : Utf8.items (chunks bytes).flatten =
        (unmarked text).map .char ++ .malformed lead size reason :: more := by
      by_cases marked : byteOrderMark <+: bytes
      · obtain ⟨body, rfl⟩ := marked
        rw [whole, if_pos (List.isPrefixOf_iff_prefix.mpr (List.prefix_append _ _)), List.drop_left]
        rw [items_mark] at scanned
        have mark : ['\uFEFF'].map .char ++ Utf8.items body =
            text.map .char ++ .malformed lead size reason :: more := scanned
        obtain ⟨rest, rfl, body_scanned⟩ := chars_before mark
        exact body_scanned
      · rw [whole, if_neg (mt List.isPrefixOf_iff_prefix.mp marked),
          unmarked_plain fun starts => marked (starts.trans start)]
        exact scanned
    obtain ⟨complete, fault⟩ := readChunks_malformed none .empty malformed
    exact ⟨complete, fun _ => fault⟩

/-- The number of the line that holds what comes after a text. -/
def lineAfter (text : List Char) : Nat := (fileLines (text ++ ['\uFFFD'])).length

theorem length_feed_lt (line : OpenLine) (text : List Char) :
    (line.feed text).1.length < (linesFrom line (text ++ ['\uFFFD'])).length := by
  have rest : linesFrom (line.feed text).2 ['\uFFFD'] ≠ [] := by
    rw [linesFrom_cons, linesFrom_nil, OpenLine.step]
    cases (line.feed text).2.returned <;> simp [OpenLine.finish]
  rw [linesFrom_append, List.length_append]
  exact Nat.lt_add_of_pos_right (List.length_pos_iff.mpr rest)

variable {owner : Option String} {line : Nat} {lines others : List (List Char)}

/-- What is read of a table is the beginning of what is read of more of it. -/
theorem isPrefix_entries (more : lines <+: others) :
    (readFrom owner line lines).entries <+: (readFrom owner line others).entries := by
  obtain ⟨back, rfl⟩ := more
  cases found : (readFrom owner line lines).fault with
  | none =>
    rw [readFrom_append found, entries_followedBy]
    exact List.prefix_append _ _
  | some fault => rw [readFrom_append_stopped found]

theorem line_lt : ∀ entry ∈ (readFrom owner line lines).entries, entry.line < line + lines.length := by
  induction lines generalizing owner line with
  | nil => intro entry member; cases member
  | cons raw rest ih =>
    have later {owner : Option String} {entry : Entry} (member : entry ∈ (readFrom owner (line + 1) rest).entries) :
        entry.line < line + (raw :: rest).length := by
      have bound := ih entry member
      rw [List.length_cons]
      omega
    intro entry member
    rw [readFrom] at member
    cases effect : lineEffect owner line raw with
    | nothing =>
      rw [effect] at member
      exact later member
    | event event =>
      rw [effect] at member
      cases event with
      | notice notice => exact later member
      | entry found =>
        rcases List.mem_cons.mp member with rfl | member
        · rw [lineEffect_line effect]
          exact Nat.lt_add_of_pos_right (Nat.succ_pos _)
        · exact later member
    | fault fault =>
      rw [effect] at member
      cases member

/-- Bytes that are the form of no text. -/
def IsDamaged (bytes : List UInt8) : Prop := ∀ text, Utf8.encode text ≠ bytes

/-- Of a file that is no UTF-8 nothing is read but entries of the text in front of the
first malformed span, and these as they are read of that text alone. None is of the
line that the span is in. -/
theorem readPath_damaged (files : FileSystem) (path : String) (bytes : List UInt8)
    (found : files.find path = .file bytes) (damaged : IsDamaged bytes) :
    (∃ text, IsLongest bytes text) ∧
    ∀ text, IsLongest bytes text →
      (readPath files path).entries <+: (read (fileLines (unmarked text))).entries ∧
      ∀ entry ∈ (readPath files path).entries, entry.line < lineAfter (unmarked text) := by
  obtain ⟨text, whole, _⟩ | ⟨text, lead, size, reason, more, start, scanned⟩ := items_cases bytes
  · exact absurd whole (damaged text)
  have longest := isLongest_of_items start scanned
  refine ⟨⟨text, longest⟩, ?_⟩
  intro other longest'
  obtain rfl := longest.unique longest'
  obtain ⟨complete, _⟩ := byteLines_malformed start scanned
  have entries : (readPath files path).entries = (read (byteLines bytes).1).entries := by
    rw [readPath_eq, found]
    rfl
  rw [entries]
  refine ⟨isPrefix_entries (complete.trans (isPrefix_feed _)), ?_⟩
  intro entry member
  have inside := line_lt entry member
  have count := complete.length_le
  have before := length_feed_lt .empty (unmarked text)
  change _ < lineAfter (unmarked text) at before
  omega

/-- A mark, two lines, and a third that ends inside a character. Without its last bytes
the third would be a method too, of another name than it was given. -/
theorem readPath_damaged_name :
    let text := "\uFEFFa.B -> c:\r\n\tint f() -> m\r  int g() -> n".toList
    let bytes := Utf8.encode text ++ [0xE2, 0x82]
    let files := FileSystem.single "m" (.file bytes)
    let header : Entry := .header ⟨"a.B", "c", 1⟩
    let method (plain obfuscated : String) (line : Nat) : Entry :=
      .method ⟨"a.B", "int", plain, "", obfuscated, 0, 0, line⟩
    files.find "m" = .file bytes ∧ IsDamaged bytes ∧ IsLongest bytes text ∧
      (readPath files "m").entries = [header, method "f" "m" 2] ∧
      (read (fileLines (unmarked text))).entries = [header, method "f" "m" 2, method "g" "n" 3] ∧
      (readPath files "m").entries <+: (read (fileLines (unmarked text))).entries ∧ lineAfter (unmarked text) = 3 ∧
      ∀ entry ∈ (readPath files "m").entries, entry.line < lineAfter (unmarked text) := by
  intro text bytes files header method
  have found : files.find "m" = .file bytes := rfl
  have damaged : IsDamaged bytes := fun _ => encode_ne (by decide)
  have start : Utf8.encode text <+: bytes := List.prefix_append _ _
  have scanned : Utf8.items bytes = text.map .char ++ [.malformed 0xE2 2 .unexpectedEnd] := by
    rw [Utf8.items, Utf8.scan_append, scan_encode]
    rfl
  have longest := isLongest_of_items start scanned
  obtain ⟨entries, before⟩ := (readPath_damaged files "m" bytes found damaged).2 text longest
  exact ⟨found, damaged, longest, by decide, by decide, entries, by decide, before⟩

end Deobfuscator.Proofs.DamagedFiles
