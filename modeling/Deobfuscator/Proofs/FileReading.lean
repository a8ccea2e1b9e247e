import Deobfuscator.NameIndex.Source
import Deobfuscator.Proofs.EncodedText

/-! A file that holds the UTF-8 form of a text is read as that text is. Wherever the
file is cut into chunks, inside a character, between the two characters of a line's
end or in the middle of a line, no line is changed, lost or counted twice. -/

namespace Deobfuscator.Proofs.FileReading
open Text Mapping EncodedText

/-- The text of a file is what follows the byte order mark. -/
def unmarked : List Char → List Char
  | '\uFEFF' :: text => text
  | text => text

/-- The line boundaries that only a text in memory has. -/
def memoryBreaks : List Char := ['\x0b', '\x0c', '\x1c', '\x1d', '\x1e', '\u0085', '\u2028', '\u2029']

theorem feed_append (line : OpenLine) (front back : List Char) :
    line.feed (front ++ back) =
      ((line.feed front).1 ++ ((line.feed front).2.feed back).1, ((line.feed front).2.feed back).2) := by
  induction front generalizing line with
  | nil => rfl
  | cons c front ih => simp [OpenLine.feed, ih]

/-- Puts the characters of a line in progress, last first, in front of the lines after it. -/
def putBack (text : List Char) (lines : List (List Char)) : List (List Char) :=
  text.foldl (fun lines c => consLine c lines) lines

theorem putBack_none (lines : List (List Char)) : putBack [] lines = lines :=
  rfl

theorem putBack_char (c : Char) (text : List Char) (lines : List (List Char)) :
    putBack (c :: text) lines = putBack text (consLine c lines) :=
  rfl

theorem putBack_cons (text line : List Char) (rest : List (List Char)) :
    putBack text (line :: rest) = (text.reverse ++ line) :: rest := by
  induction text generalizing line with
  | nil => rfl
  | cons c text ih =>
    rw [putBack_char, consLine, ih]
    simp

theorem putBack_nil {text : List Char} (some : text ≠ []) : putBack text [] = [text.reverse] := by
  obtain ⟨c, text, rfl⟩ := List.exists_cons_of_ne_nil some
  rw [putBack_char, consLine, putBack_cons]
  simp

/-- The lines of a text that a line in progress is in front of. -/
def linesFrom (line : OpenLine) (text : List Char) : List (List Char) :=
  if line.returned then line.text.reverse :: linesAfter isFileBreak true text
  else putBack line.text (linesAfter isFileBreak false text)

theorem linesFrom_nil (line : OpenLine) : linesFrom line [] = line.finish := by
  obtain ⟨text, returned⟩ := line
  cases returned with
  | true => rfl
  | false =>
    by_cases none : text = []
    · subst none
      rfl
    · rw [linesFrom, if_neg Bool.false_ne_true, linesAfter, putBack_nil none, OpenLine.finish]
      simp [none]

/-- One more character completes the same line, or leaves the same line in progress. -/
theorem linesFrom_cons (line : OpenLine) (c : Char) (text : List Char) :
    linesFrom line (c :: text) = (line.step c).1.toList ++ linesFrom (line.step c).2 text := by
  obtain ⟨front, returned⟩ := line
  cases returned with
  | true =>
    by_cases feed : c = '\n'
    · subst feed
      rfl
    · by_cases back : c = '\r'
      · subst back
        rfl
      · simp [linesFrom, OpenLine.step, linesAfter, isFileBreak, feed, back, putBack_char, putBack_none]
  | false =>
    by_cases feed : c = '\n'
    · subst feed
      simp [linesFrom, OpenLine.step, OpenLine.empty, linesAfter, isFileBreak, putBack_cons, putBack_none]
    · by_cases back : c = '\r'
      · subst back
        simp [linesFrom, OpenLine.step, linesAfter, isFileBreak, putBack_cons]
      · simp [linesFrom, OpenLine.step, linesAfter, isFileBreak, feed, back, putBack_char]

theorem feed_finish (line : OpenLine) (text : List Char) :
    (line.feed text).1 ++ (line.feed text).2.finish = linesFrom line text := by
  induction text generalizing line with
  | nil => rw [linesFrom_nil, OpenLine.feed, List.nil_append]
  | cons c text ih =>
    rw [linesFrom_cons, ← ih, OpenLine.feed, List.append_assoc]

/-- Chunks whose bytes decode to a text give the lines of that text. -/
theorem readChunks_decoded (pending : Option Utf8.Pending) (line : OpenLine) {parts : List (List UInt8)}
    {text : List Char} (decoded : Utf8.scan pending parts.flatten = (text.map .char, none)) :
    readChunks true pending line parts = (linesFrom line text, none) := by
  -- On the chunks: a chunk decodes to the first part of the text, and what is
  -- undecided after it, as a character or as a line, is what the others start from.
  induction parts generalizing pending line text with
  | nil =>
    rw [List.flatten_nil, Utf8.scan, Prod.mk.injEq, eq_comm, List.map_eq_nil_iff] at decoded
    obtain ⟨rfl, rfl⟩ := decoded
    rw [linesFrom_nil]
    rfl
  | cons chunk rest ih =>
    rw [List.flatten_cons, Utf8.scan_append, Prod.mk.injEq] at decoded
    obtain ⟨items, last⟩ := decoded
    obtain ⟨front, back, rfl, front_items, back_items⟩ := List.map_eq_append_iff.mp items.symm
    have rest_decoded := ih (Utf8.scan pending chunk).2 (line.feed front).2 (Prod.ext back_items.symm last)
    rw [readChunks]
    dsimp only
    rw [← front_items, strictly_chars]
    dsimp only
    rw [rest_decoded, ← feed_finish, ← feed_finish, feed_append, List.append_assoc]

theorem chunksOf_flatten {fuel : Nat} {bytes : List UInt8} (enough : bytes.length ≤ fuel) :
    (chunksOf fuel bytes).flatten = bytes := by
  induction fuel generalizing bytes with
  | zero =>
    rw [List.length_eq_zero_iff.mp (Nat.le_zero.mp enough)]
    rfl
  | succ fuel ih =>
    rw [chunksOf]
    cases bytes with
    | nil => rfl
    | cons byte rest =>
      have shorter : ((byte :: rest).drop chunkSize).length ≤ fuel := by
        rw [List.length_drop, chunkSize]
        rw [List.length_cons] at enough ⊢
        omega
      rw [List.isEmpty_cons, if_neg Bool.false_ne_true, List.flatten_cons, ih shorter, List.take_append_drop]

theorem isPrefixOf_take {mark bytes : List UInt8} {n : Nat} (fits : mark.length ≤ n) :
    mark.isPrefixOf (bytes.take n) = mark.isPrefixOf bytes := by
  rw [Bool.eq_iff_iff, List.isPrefixOf_iff_prefix, List.isPrefixOf_iff_prefix, List.prefix_take_iff]
  exact and_iff_left fits

/-- The chunks together are the file without the mark. -/
theorem chunks_flatten {bytes : List UInt8} (one : bytes ≠ byteOrderMark.take 1) (two : bytes ≠ byteOrderMark.take 2) :
    (chunks bytes).flatten =
      if byteOrderMark.isPrefixOf bytes then bytes.drop byteOrderMark.length else bytes := by
  have whole := chunksOf_flatten (Nat.le_refl bytes.length)
  rw [chunks, if_neg (not_or.mpr ⟨one, two⟩)]
  cases bytes with
  | nil => rfl
  | cons byte rest =>
    have first : chunksOf (byte :: rest).length (byte :: rest) =
        (byte :: rest).take chunkSize :: chunksOf rest.length ((byte :: rest).drop chunkSize) := rfl
    rw [first] at whole ⊢
    dsimp only
    rw [List.flatten_cons] at whole ⊢
    rw [isPrefixOf_take (by decide)]
    split
    next marked =>
      have long : byteOrderMark.length ≤ ((byte :: rest).take chunkSize).length := by
        rw [← isPrefixOf_take (n := chunkSize) (by decide), List.isPrefixOf_iff_prefix] at marked
        exact marked.length_le
      rw [← List.drop_append_of_le_length long, whole]
    next => exact whole

theorem scan_mark (bytes : List UInt8) :
    Utf8.scan none (byteOrderMark ++ bytes) = (.char '\uFEFF' :: (Utf8.scan none bytes).1, (Utf8.scan none bytes).2) := by
  have mark : Utf8.scan none byteOrderMark = ([.char '\uFEFF'], none) := rfl
  rw [Utf8.scan_append, mark]
  rfl

theorem encode_mark (text : List Char) : Utf8.encode ('\uFEFF' :: text) = byteOrderMark ++ Utf8.encode text :=
  rfl

/-- A file starts with the mark only if its text does. -/
theorem exists_mark {text : List Char} (marked : byteOrderMark.isPrefixOf (Utf8.encode text) = true) :
    ∃ rest, text = '\uFEFF' :: rest := by
  rw [List.isPrefixOf_iff_prefix] at marked
  obtain ⟨bytes, whole⟩ := marked
  have scanned := scan_encode text
  rw [← whole, scan_mark] at scanned
  cases text with
  | nil => cases scanned
  | cons c rest =>
    rw [List.map_cons, Prod.mk.injEq, List.cons.injEq, Utf8.Item.char.injEq] at scanned
    exact ⟨rest, by rw [scanned.1.1]⟩

/-- The form of a text does not end inside a character. -/
theorem encode_ne {text : List Char} {bytes : List UInt8} (undecided : (Utf8.scan none bytes).2 ≠ none) :
    Utf8.encode text ≠ bytes := by
  rintro rfl
  rw [scan_encode] at undecided
  exact undecided rfl

theorem chunks_encode (text : List Char) : (chunks (Utf8.encode text)).flatten = Utf8.encode (unmarked text) := by
  rw [chunks_flatten (encode_ne (by decide)) (encode_ne (by decide))]
  split
  next marked =>
    obtain ⟨rest, rfl⟩ := exists_mark marked
    rw [encode_mark, List.drop_left]
    rfl
  next plain =>
    fun_cases unmarked text with
    | case1 rest => exact absurd rfl plain
    | case2 => rfl

theorem byteLines_encode (text : List Char) : byteLines (Utf8.encode text) = (fileLines (unmarked text), none) := by
  have decoded : Utf8.scan none (chunks (Utf8.encode text)).flatten = ((unmarked text).map .char, none) := by
    rw [chunks_encode, scan_encode]
  rw [byteLines, readChunks_decoded none .empty decoded]
  rfl

theorem linesAfter_congr {isBreak isBreak' : Char → Bool} {text : List Char}
    (same : ∀ c ∈ text, isBreak c = isBreak' c) (afterReturn : Bool) :
    linesAfter isBreak afterReturn text = linesAfter isBreak' afterReturn text := by
  induction text generalizing afterReturn with
  | nil => rfl
  | cons c rest ih =>
    have rest_same := ih fun other member => same other (List.mem_cons_of_mem c member)
    rw [linesAfter, linesAfter, same c List.mem_cons_self, rest_same, rest_same]

/-- A line is a part of its text, and the first one is its beginning. -/
theorem isInfix_linesAfter (isBreak : Char → Bool) (afterReturn : Bool) (text : List Char) :
    (∀ line ∈ linesAfter isBreak afterReturn text, line <:+: text) ∧
      (afterReturn = false → ∀ first ∈ (linesAfter isBreak afterReturn text).head?, first <+: text) := by
  induction text generalizing afterReturn with
  | nil => simp [linesAfter]
  | cons c rest ih =>
    rw [linesAfter]
    split
    next same =>
      have returned : afterReturn ≠ false := by rintro rfl; cases same
      exact ⟨fun line member => List.infix_cons ((ih false).1 line member), fun plain => absurd plain returned⟩
    next =>
      split
      next =>
        refine ⟨?_, ?_⟩
        · intro line member
          rcases List.mem_cons.mp member with rfl | member
          · exact List.nil_infix
          · exact List.infix_cons ((ih _).1 line member)
        · rintro _ first ⟨⟩
          exact List.nil_prefix
      next =>
        obtain ⟨inside, start⟩ := ih false
        cases found : linesAfter isBreak false rest with
        | nil =>
          have alone : [c] <+: c :: rest := List.prefix_append [c] rest
          simp [consLine, alone, alone.isInfix]
        | cons line lines =>
          rw [found] at inside start
          have first : c :: line <+: c :: rest := (List.prefix_cons_inj c).mpr (start rfl line rfl)
          refine ⟨?_, ?_⟩
          · intro other member
            rcases List.mem_cons.mp member with rfl | member
            · exact first.isInfix
            · exact List.infix_cons (inside other (List.mem_cons_of_mem line member))
          · rintro _ other ⟨⟩
            exact first

theorem isInfix_fileLines {text line : List Char} (member : line ∈ fileLines text) : line <:+: text :=
  (isInfix_linesAfter isFileBreak false text).1 line member

theorem linesAfter_plain {isBreak : Char → Bool} {text : List Char} (plain : ∀ c ∈ text, isBreak c = false)
    (some : text ≠ []) : linesAfter isBreak false text = [text] := by
  induction text with
  | nil => exact absurd rfl some
  | cons c rest ih =>
    obtain ⟨c_plain, rest_plain⟩ := List.forall_mem_cons.mp plain
    rw [linesAfter, Bool.false_and, if_neg Bool.false_ne_true, c_plain, if_neg Bool.false_ne_true]
    cases rest with
    | nil => rfl
    | cons next rest =>
      rw [ih rest_plain (List.cons_ne_nil _ _)]
      rfl

theorem linesAfter_line {isBreak : Char → Bool} {line : List Char} (plain : ∀ c ∈ line, isBreak c = false) {c : Char}
    (ends : isBreak c = true) (rest : List Char) :
    linesAfter isBreak false (line ++ c :: rest) = line :: linesAfter isBreak (c == '\r') rest := by
  induction line with
  | nil => rw [List.nil_append, linesAfter, Bool.false_and, if_neg Bool.false_ne_true, if_pos ends]
  | cons d line ih =>
    obtain ⟨d_plain, line_plain⟩ := List.forall_mem_cons.mp plain
    rw [List.cons_append, linesAfter, Bool.false_and, if_neg Bool.false_ne_true, d_plain, if_neg Bool.false_ne_true,
      ih line_plain]
    rfl

theorem isTextBreak_eq {c : Char} (plain : c ∉ memoryBreaks) : isTextBreak c = isFileBreak c := by
  simp only [memoryBreaks, List.mem_cons, List.not_mem_nil, or_false, not_or] at plain
  rw [Bool.eq_iff_iff]
  simp [isTextBreak, plain]

theorem textLines_eq {text : List Char} (plain : ∀ c ∈ text, c ∉ memoryBreaks) : textLines text = fileLines text :=
  linesAfter_congr (fun c member => isTextBreak_eq (plain c member)) false

/-- A file in UTF-8 of any length is read as its whole text would be: without one
mark in front, cut into lines at line feeds and carriage returns. The entries,
their lines and the fault are the same. If the text has no other line boundary,
they are also those of the text in memory, and so is the index. -/
theorem readPath_encoded (files : FileSystem) (path : String) (text : List Char)
    (found : files.find path = .file (Utf8.encode text)) :
    readPath files path = read (fileLines (unmarked text)) ∧
    ((∀ c ∈ unmarked text, c ∉ memoryBreaks) →
      readPath files path = readText (String.ofList (unmarked text)) ∧
        NameIndex.ofFile files path = NameIndex.ofText (String.ofList (unmarked text))) := by
  have file : readPath files path = read (fileLines (unmarked text)) := by
    rw [readPath, found]
    dsimp only
    rw [readBytes, byteLines_encode]
    exact congrArg (Reading.mk _) Option.or_none
  refine ⟨file, ?_⟩
  intro plain
  have memory : readPath files path = readText (String.ofList (unmarked text)) := by
    rw [file, readText, String.toList_ofList, textLines_eq plain]
  refine ⟨memory, ?_⟩
  rw [NameIndex.ofFile, NameIndex.ofText, memory]

/-- Lines with characters of two to four bytes that end in two characters, in a return
or not at all. -/
private def variedLines : List Char := "€.é -> a:\r\n\t3:4:int 😀() -> b\r\u2003€ x -> y\nstray".toList

/-- A mark and a line of blanks in front of them. -/
private def padded (blanks : Nat) : List Char :=
  '\uFEFF' :: (List.replicate blanks ' ' ++ '\r' :: '\n' :: variedLines)

private theorem encode_padded (blanks : Nat) : Utf8.encode (padded blanks) =
    0xEF :: 0xBB :: 0xBF :: (List.replicate blanks 0x20 ++ 0x0D :: 0x0A :: Utf8.encode variedLines) := by
  have blank : String.utf8EncodeChar ' ' = [0x20] := by decide
  have padding : Utf8.encode (List.replicate blanks ' ') = List.replicate blanks 0x20 := by
    rw [Utf8.encode, List.flatMap_replicate, blank, List.flatten_replicate_singleton]
  have whole : Utf8.encode (padded blanks) = String.utf8EncodeChar '\uFEFF' ++
      (Utf8.encode (List.replicate blanks ' ') ++ Utf8.encode ('\r' :: '\n' :: variedLines)) := by
    rw [padded, Utf8.encode, List.flatMap_cons, List.flatMap_append]
    rfl
  rw [whole, padding]
  rfl

private theorem fileLines_padded (blanks : Nat) : fileLines (unmarked (padded blanks)) = List.replicate blanks ' ' ::
    ["€.é -> a:".toList, "\t3:4:int 😀() -> b".toList, "\u2003€ x -> y".toList, "stray".toList] := by
  have plain : ∀ c ∈ List.replicate blanks ' ', isFileBreak c = false := by
    intro c inside
    rw [List.eq_of_mem_replicate inside]
    rfl
  have text : unmarked (padded blanks) = List.replicate blanks ' ' ++ '\r' :: '\n' :: variedLines := rfl
  have rest : linesAfter isFileBreak ('\r' == '\r') ('\n' :: variedLines) =
      ["€.é -> a:".toList, "\t3:4:int 😀() -> b".toList, "\u2003€ x -> y".toList, "stray".toList] := by decide
  rw [text, fileLines, linesBy, linesAfter_line plain rfl, rest]

private theorem isSilent_blanks (blanks : Nat) : isSilent (List.replicate blanks ' ') = true := by
  rw [isSilent, strip, List.dropWhile_replicate]
  rfl

private theorem padded_breakFree (blanks : Nat) : ∀ c ∈ unmarked (padded blanks), c ∉ memoryBreaks := by
  have free : ('\r' :: '\n' :: variedLines).all (!memoryBreaks.contains ·) = true := by decide
  simp only [List.all_eq_true, Bool.not_eq_true', List.contains_eq_mem, decide_eq_false_iff_not] at free
  intro c inside
  change c ∈ List.replicate blanks ' ' ++ '\r' :: '\n' :: variedLines at inside
  rcases List.mem_append.mp inside with inside | inside
  · rw [List.eq_of_mem_replicate inside]
    decide
  · exact free c inside

/-- The number of blanks decides where the first chunk ends: inside a character, or
between the two characters of a line's end. The lines are the same for every number. -/
theorem readPath_encoded_marked :
    let files (blanks : Nat) := FileSystem.single "m" (.file (Utf8.encode (padded blanks)))
    (∃ front back, Utf8.encode (padded 8186) = front ++ 0xE2 :: 0x82 :: back ∧ front.length + 1 = chunkSize) ∧
    (∃ front back, Utf8.encode (padded 8188) = front ++ 0x0D :: 0x0A :: back ∧ front.length + 1 = chunkSize) ∧
    ∀ blanks, (files blanks).find "m" = .file (Utf8.encode (padded blanks)) ∧
      (∀ c ∈ unmarked (padded blanks), c ∉ memoryBreaks) ∧
      NameIndex.ofFile (files blanks) "m" = NameIndex.ofText (String.ofList (unmarked (padded blanks))) ∧
      readPath (files blanks) "m" = ⟨[
        .entry (.header ⟨"€.é", "a", 2⟩),
        .entry (.method ⟨"€.é", "int", "😀", "", "b", 3, 4, 3⟩),
        .entry (.field ⟨"€.é", "€", "x", "y", 4⟩)], some (.notAHeader 5 "stray")⟩ := by
  intro files
  have length (blanks : Nat) : ([0xEF, 0xBB, 0xBF] ++ List.replicate blanks (0x20 : UInt8)).length = blanks + 3 := by
    rw [List.length_append, List.length_replicate, Nat.add_comm]
    rfl
  refine ⟨?_, ?_, ?_⟩
  · refine ⟨[0xEF, 0xBB, 0xBF] ++ List.replicate 8186 0x20 ++ [0x0D, 0x0A], (Utf8.encode variedLines).drop 2, ?_, ?_⟩
    · rw [encode_padded, List.append_assoc, List.append_assoc]
      rfl
    · rw [List.length_append, length]
      rfl
  · refine ⟨[0xEF, 0xBB, 0xBF] ++ List.replicate 8188 0x20, Utf8.encode variedLines, ?_, ?_⟩
    · rw [encode_padded, List.append_assoc]
      rfl
    · rw [length]
      rfl
  · intro blanks
    have found : (files blanks).find "m" = .file (Utf8.encode (padded blanks)) := rfl
    have plain := padded_breakFree blanks
    obtain ⟨file, memory⟩ := readPath_encoded (files blanks) "m" (padded blanks) found
    refine ⟨found, plain, (memory plain).2, ?_⟩
    rw [file, fileLines_padded, Mapping.read, readFrom, lineEffect, isSilent_blanks]
    change readFrom none 2 _ = _
    decide

end Deobfuscator.Proofs.FileReading
