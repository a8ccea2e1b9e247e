import Deobfuscator.CommandLine.Run
import Deobfuscator.Proofs.DamagedFiles
import Deobfuscator.Proofs.MethodNumbers
import Deobfuscator.Proofs.RequestTotality

/-! What is wrong with a file that can be read, and who is told. The file is corrupt,
which the summary and the answer report, or it holds a number that is too long, and that
ends both. Bytes that are no UTF-8 are always found, unless they are a mark cut short. -/

namespace Deobfuscator.Proofs.FileFaults
open Template (Memory)
open Text Mapping TextCuts Numerals MethodGrammar TableReading TableSegments FirstBadLine MethodNumbers EncodedText
  DecodedText FileReading DamagedFiles RequestOutcomes RequestTotality CommandLine

/-- The bytes hold no run of ASCII digits that is too long to be read as a number. -/
def HasShortRuns (bytes : List UInt8) : Prop :=
  ∀ run, run <:+: bytes → (∀ byte ∈ run, 0x30 ≤ byte ∧ byte ≤ 0x39) → run.length ≤ 4300

theorem HasShortRuns.of_length {bytes : List UInt8} (short : bytes.length ≤ 4300) : HasShortRuns bytes :=
  fun _ inside _ => inside.length_le.trans short

theorem digit_encode {c : Char} (digit : '0' ≤ c ∧ c ≤ '9') :
    ∃ byte, String.utf8EncodeChar c = [byte] ∧ 0x30 ≤ byte ∧ byte ≤ 0x39 := by
  obtain ⟨low, high⟩ := digit
  have low' : 48 ≤ c.toNat := low
  have high' : c.toNat ≤ 57 := high
  have value := byte_toNat (n := c.toNat) (by omega)
  refine ⟨UInt8.ofNat c.toNat, ?_, ?_, ?_⟩
  · rw [encodeChar_eq, if_pos (by omega)]
  · rw [UInt8.le_iff_toNat_le, value]
    exact low'
  · rw [UInt8.le_iff_toNat_le, value]
    exact high'

theorem digits_encode {number : List Char} (digits : ∀ c ∈ number, '0' ≤ c ∧ c ≤ '9') :
    (Utf8.encode number).length = number.length ∧ ∀ byte ∈ Utf8.encode number, 0x30 ≤ byte ∧ byte ≤ 0x39 := by
  induction number with
  | nil => exact ⟨rfl, fun _ inside => absurd inside List.not_mem_nil⟩
  | cons c rest ih =>
    obtain ⟨digit, rest_digits⟩ := List.forall_mem_cons.mp digits
    obtain ⟨byte, form, range⟩ := digit_encode digit
    obtain ⟨length, bytes⟩ := ih rest_digits
    have whole : Utf8.encode (c :: rest) = byte :: Utf8.encode rest := by
      rw [Utf8.encode, List.flatMap_cons, form]
      rfl
    rw [whole, List.length_cons, List.length_cons, length]
    exact ⟨rfl, List.forall_mem_cons.mpr ⟨range, bytes⟩⟩

/-- The lines that are read of a file are lines of a text that its bytes start with. -/
theorem byteLines_written (bytes : List UInt8) :
    ∃ text, Utf8.encode text <+: bytes ∧ (byteLines bytes).1 <+: fileLines (unmarked text) := by
  obtain ⟨text, rfl, _⟩ | ⟨text, lead, size, reason, more, start, scanned⟩ := items_cases bytes
  · refine ⟨text, List.prefix_rfl, ?_⟩
    rw [byteLines_encode]
  · exact ⟨text, start, (byteLines_malformed start scanned).1.trans (isPrefix_feed _)⟩

theorem unmarked_suffix (text : List Char) : unmarked text <:+ text := by
  fun_cases unmarked text with
  | case1 rest => exact List.suffix_cons _ _
  | case2 => exact List.suffix_rfl

theorem HasShortRuns.lines {bytes : List UInt8} (short : HasShortRuns bytes) :
    ∀ raw ∈ (byteLines bytes).1, HasShortNumbers raw := by
  obtain ⟨text, start, lines⟩ := byteLines_written bytes
  intro raw member
  refine .of_runs fun number inside digits => ?_
  -- A number in a line stands in the bytes too, digit by digit.
  have written : number <:+: text :=
    inside.trans ((isInfix_fileLines (lines.subset member)).trans (unmarked_suffix text).isInfix)
  obtain ⟨length, bytes_digits⟩ := digits_encode digits.digits
  rw [← length]
  exact short _ ((written.flatMap _).trans start.isInfix) bytes_digits

variable {files : FileSystem} {path : String} {bytes : List UInt8} {fault : Fault}

theorem readPath_file_fault_iff (found : files.find path = .file bytes) : (readPath files path).fault = some fault ↔
    (read (byteLines bytes).1).fault = some fault ∨ (read (byteLines bytes).1).fault = none ∧
      ∃ cause, (byteLines bytes).2 = some cause ∧ fault = .undecodable path cause := by
  rw [readPath_error_iff found]
  simp [linesOf, malformedOf, stopOf]

/-- What goes wrong with a file is that it is corrupt, or a number that is too long. -/
theorem fault_cases (found : files.find path = .file bytes) (stopped : (readPath files path).fault = some fault) :
    fault.kind = .mappingCorrupt ∨
      ∃ digits, fault = .numeralTooLong digits ∧ (read (byteLines bytes).1).fault = some fault := by
  rcases (readPath_file_fault_iff found).mp stopped with stopped | ⟨_, cause, _, rfl⟩
  · obtain ⟨_, _, rfl⟩ | ⟨_, _, rfl⟩ | ⟨digits, rfl⟩ := read_fault_cases stopped
    · exact .inl rfl
    · exact .inl rfl
    · exact .inr ⟨digits, rfl, stopped⟩
  · exact .inl rfl

theorem corrupt_of_short (found : files.find path = .file bytes) (short : HasShortRuns bytes)
    (stopped : (readPath files path).fault = some fault) : fault.kind = .mappingCorrupt := by
  obtain corrupt | ⟨_, _, stopped⟩ := fault_cases found stopped
  · exact corrupt
  · exact (read_fault_message short.lines stopped).1

/-- A file that is no UTF-8 is always refused, and for a corrupt table if no number in
it is too long. Only a file that ends inside the byte order mark is read as an empty one. -/
theorem readPath_refuses_damaged (files : FileSystem) (path : String) (bytes : List UInt8)
    (found : files.find path = .file bytes) (damaged : IsDamaged bytes) :
    (IsCutMark bytes → readPath files path = ⟨[], none⟩) ∧
    (¬ IsCutMark bytes → ∃ fault, (readPath files path).fault = some fault ∧
      (HasShortRuns bytes → fault.kind = .mappingCorrupt)) := by
  refine ⟨?_, ?_⟩
  · intro cut
    rw [readPath, found]
    rcases cut with rfl | rfl <;> rfl
  · intro uncut
    obtain ⟨text, whole, _⟩ | ⟨text, lead, size, reason, more, start, scanned⟩ := items_cases bytes
    · exact absurd whole (damaged text)
    obtain ⟨cause, spanned⟩ := (byteLines_malformed start scanned).2 uncut
    -- A line in front of the span may be refused first.
    have stopped : ∃ fault, (readPath files path).fault = some fault := by
      cases lines : (read (byteLines bytes).1).fault with
      | some fault => exact ⟨fault, (readPath_file_fault_iff found).mpr (.inl lines)⟩
      | none => exact ⟨_, (readPath_file_fault_iff found).mpr (.inr ⟨lines, cause, spanned, rfl⟩)⟩
    obtain ⟨fault, stopped⟩ := stopped
    exact ⟨fault, stopped, fun short => corrupt_of_short found short stopped⟩

/-- A last line that ends inside a character. -/
theorem readPath_refuses_damaged_tail :
    let bytes := Utf8.encode "a.B -> c:\n\tint f() -> m".toList ++ [0xE2, 0x82]
    let files := FileSystem.single "m" (.file bytes)
    files.find "m" = .file bytes ∧ IsDamaged bytes ∧ ¬ IsCutMark bytes ∧ HasShortRuns bytes ∧
      ∃ fault, (readPath files "m").fault = some fault ∧ fault.kind = .mappingCorrupt := by
  intro bytes files
  have found : files.find "m" = .file bytes := rfl
  have damaged : IsDamaged bytes := fun text => encode_ne (by decide)
  have uncut : ¬ IsCutMark bytes := by
    rw [IsCutMark]
    decide
  have short : HasShortRuns bytes := .of_length (by decide)
  obtain ⟨fault, stopped, corrupt⟩ := (readPath_refuses_damaged files "m" bytes found damaged).2 uncut
  exact ⟨found, damaged, uncut, short, fault, stopped, corrupt short⟩

/-- A file that holds one byte of the mark is no UTF-8, and is read to its end. -/
theorem readPath_takes_cut_mark :
    let files := FileSystem.single "m" (.file [0xEF])
    IsDamaged [0xEF] ∧ HasShortRuns [0xEF] ∧ readPath files "m" = ⟨[], none⟩ :=
  ⟨fun _ => encode_ne (by decide), .of_length (by decide), rfl⟩

/-- A fault of a file is told to the user: by the summary of the file, on any console, and
by the answer to a query about the version in it. -/
structure IsTold (files : FileSystem) (path : String) (fault : Fault) : Prop where
  summary : ∀ console : Console, runStats console files path = .finished 1 "" (console.error fault.message)
  answer : ∀ (resolver : Resolver) (memory : Memory) (query : Query) (place : SlashPath),
    query.version ∉ resolver.cache.versions → resolver.archive.pathOf memory query.version = .ok place →
      place.toString = path → (resolver.answer files memory query).2.result = .ok (.failed fault.failure)

/-- A fault of a file is not told, but ends the summary and the answer. -/
structure PassesThrough (files : FileSystem) (path : String) (fault : Fault) : Prop where
  summary : ∀ console : Console, runStats console files path = .escaped fault
  answer : ∀ (resolver : Resolver) (memory : Memory) (query : Query) (place : SlashPath),
    query.version ∉ resolver.cache.versions → resolver.archive.pathOf memory query.version = .ok place →
      place.toString = path → (resolver.answer files memory query).2.result = .error fault

theorem ofFile_error_iff :
    (NameIndex.ofFile files path).result = .error fault ↔ (readPath files path).fault = some fault := by
  have read : (NameIndex.ofFile files path).result = indexed (readPath files path) := NameIndex.ofReading_result _
  rw [read, indexed_error_iff]

theorem runStats_error (failed : (NameIndex.ofFile files path).result = .error fault) (console : Console) :
    runStats console files path = match fault.kind with
      | .exhausted | .unexpected => .escaped fault
      | _ => .finished 1 "" (console.error fault.message) := by
  cases kind : fault.kind <;> simp only [runStats, failed, kind]

theorem indexOf_error (found : files.find path = .file bytes) (stopped : (readPath files path).fault = some fault)
    {resolver : Resolver} {memory : Memory} {version : String} {place : SlashPath}
    (absent : version ∉ resolver.cache.versions) (located : resolver.archive.pathOf memory version = .ok place)
    (same : place.toString = path) : (resolver.indexOf files memory version).2.result = .error fault := by
  subst same
  have plain : IsPlain (files.find place.toString) := by
    rw [found]
    trivial
  rw [indexOf_error_iff, load_plain located plain, indexed_error_iff]
  exact ⟨absent, stopped⟩

theorem isTold_of_corrupt (found : files.find path = .file bytes) (stopped : (readPath files path).fault = some fault)
    (corrupt : fault.kind = .mappingCorrupt) : IsTold files path fault := by
  refine ⟨?_, ?_⟩
  · intro console
    rw [runStats_error (ofFile_error_iff.mpr stopped), corrupt]
  · intro resolver memory query place absent located same
    exact (answerFrom_failed query (indexOf_error found stopped absent located same)).1 (.inr corrupt)

theorem passesThrough_of_overlong {digits : Nat} (found : files.find path = .file bytes)
    (stopped : (readPath files path).fault = some (.numeralTooLong digits)) :
    PassesThrough files path (.numeralTooLong digits) := by
  have other : ¬ IsFailure (.numeralTooLong digits) := by simp [IsFailure, Fault.kind]
  refine ⟨?_, ?_⟩
  · intro console
    rw [runStats_error (ofFile_error_iff.mpr stopped)]
    rfl
  · intro resolver memory query place absent located same
    exact (answerFrom_failed query (indexOf_error found stopped absent located same)).2 other

private def numbered (number : List Char) : Form :=
  ⟨none, "int".toList, [' '], ['f'], [], some (number, none), [' '], [' '], ['d']⟩

private theorem numbered_wellFormed {number : List Char} (valid : IsDigits number) : (numbered number).WellFormed := by
  have colon : ':' ∉ number := by
    intro inside
    obtain ⟨_, high⟩ := valid.digits ':' inside
    exact absurd high (by decide)
  have isNumber : IsNumber number := ⟨⟨valid.some, RequestWords.digits_blankFree valid⟩, colon⟩
  have type : IsType "int".toList := by decide
  have gap : IsGap [' '] := by decide
  have name : IsName ['f'] := by decide
  have word : IsWord ['d'] := by decide
  refine ⟨?_, type, gap, name, List.not_mem_nil, ?_, gap, gap, word⟩
  · rintro range ⟨⟩
  · rintro range ⟨⟩
    exact ⟨isNumber, by rintro last ⟨⟩⟩

private theorem numbered_stops {number : List Char} {count : Nat} (overlong : IsOverlong number count) :
    StopsOverlong ["a.B -> c:".toList, ' ' :: (numbered number).text] count := by
  have valid := numbered_wellFormed overlong.toIsDigits
  have text : (numbered number).text = "int f():".toList ++ (number ++ " -> d".toList) := rfl
  have stripped : strip (' ' :: (numbered number).text) = (numbered number).text := by
    have inner : IsStripped (numbered number).text := by
      rw [text]
      refine ⟨?_, ?_⟩
      · rintro c ⟨⟩
        decide
      · intro c last
        rw [← List.append_assoc, List.getLast?_append] at last
        cases last
        decide
    have gap : IsGap [' '] := by decide
    exact (strip_gap gap _).trans inner.strip_eq
  have silent : isSilent (' ' :: (numbered number).text) = false := by
    rw [isSilent, stripped]
    rfl
  refine ⟨["a.B -> c:".toList], _, [], (numbered number).parts, rfl, by decide, by decide, silent, rfl, ?_, ?_⟩
  · rw [stripped]
    exact methodLine?_text valid
  · exact ⟨number, number, rfl, .inl overlong⟩

private theorem numbered_plain {number : List Char} (valid : IsDigits number) :
    ∀ c ∈ (numbered number).text, isFileBreak c = false := by
  have text : (numbered number).text = "int f():".toList ++ (number ++ " -> d".toList) := rfl
  have front : "int f():".toList.all (!isFileBreak ·) = true := by decide
  have back : " -> d".toList.all (!isFileBreak ·) = true := by decide
  simp only [List.all_eq_true, Bool.not_eq_true'] at front back
  intro c inside
  rw [text, List.mem_append, List.mem_append] at inside
  rcases inside with inside | inside | inside
  · exact front c inside
  · have low := (valid.digits c inside).1
    rw [isFileBreak, Bool.or_eq_false_iff, beq_eq_false_iff_ne, beq_eq_false_iff_ne]
    refine ⟨?_, ?_⟩ <;> rintro rfl <;> exact absurd low (by decide)
  · exact back c inside

private theorem byteLines_numbered {number : List Char} (valid : IsDigits number) :
    (byteLines (Utf8.encode ("a.B -> c:\n ".toList ++ (numbered number).text))).1 =
      ["a.B -> c:".toList, ' ' :: (numbered number).text] := by
  have plain : ∀ c ∈ ' ' :: (numbered number).text, isFileBreak c = false :=
    List.forall_mem_cons.mpr ⟨rfl, numbered_plain valid⟩
  rw [byteLines_encode]
  change linesFrom .empty ("a.B -> c:\n".toList ++ ' ' :: (numbered number).text) = _
  rw [linesFrom_append]
  change ["a.B -> c:".toList] ++ linesAfter isFileBreak false (' ' :: (numbered number).text) = _
  rw [linesAfter_plain plain (List.cons_ne_nil _ _)]
  rfl

/-- Leading zeros count, so the number seven can be too long. -/
private theorem isOverlong_zeros (zeros : Nat) (long : 4300 ≤ zeros) :
    IsOverlong (List.replicate zeros '0' ++ ['7']) (zeros + 1) := by
  have length : (List.replicate zeros '0' ++ ['7']).length = zeros + 1 := by
    rw [List.length_append, List.length_replicate, List.length_singleton]
  refine ⟨⟨by simp, ?_⟩, ?_, length⟩
  · intro c inside
    rcases List.mem_append.mp inside with inside | inside
    · rw [List.eq_of_mem_replicate inside]
      decide
    · rw [List.mem_singleton.mp inside]
      decide
  · rw [length]
    exact Nat.lt_succ_of_le long

private theorem ofFile_numbered {number : List Char} {count : Nat} (overlong : IsOverlong number count) :
    let text := "a.B -> c:\n int f():".toList ++ (number ++ " -> d".toList)
    (NameIndex.ofFile (.single "m" (.file (Utf8.encode text))) "m").result = .error (.numeralTooLong count) := by
  intro text
  have found : (FileSystem.single "m" (.file (Utf8.encode text))).find "m" = .file (Utf8.encode text) := rfl
  have lines : (byteLines (Utf8.encode text)).1 = ["a.B -> c:".toList, ' ' :: (numbered number).text] :=
    byteLines_numbered overlong.toIsDigits
  rw [ofFile_error_iff, readPath_file_fault_iff found, read_tooLong_iff, lines]
  exact .inl (numbered_stops overlong)

/-- A file that can be read, whatever its bytes are, has an index, or it is refused for a
corrupt table, which is told, or for a number that is too long, which is not. The last
happens if and only if the first line that cannot be read is a method with such a number,
so a file without a run of so many digits is never refused but for a corrupt table. -/
theorem ofFile_ends (files : FileSystem) (path : String) (bytes : List UInt8) (found : files.find path = .file bytes) :
    let loaded := (NameIndex.ofFile files path).result
    ((∃ index, loaded = .ok index) ∨
      (∃ fault, loaded = .error fault ∧ fault.kind = .mappingCorrupt ∧ IsTold files path fault) ∨
      ∃ digits, loaded = .error (.numeralTooLong digits) ∧ PassesThrough files path (.numeralTooLong digits)) ∧
    (∀ digits, loaded = .error (.numeralTooLong digits) ↔ StopsOverlong (byteLines bytes).1 digits) ∧
    (HasShortRuns bytes → ∀ fault, loaded = .error fault → fault.kind = .mappingCorrupt) := by
  intro loaded
  refine ⟨?_, ?_, ?_⟩
  · cases ended : loaded with
    | ok index => exact .inl ⟨index, rfl⟩
    | error fault =>
      have stopped := ofFile_error_iff.mp ended
      obtain corrupt | ⟨digits, rfl, _⟩ := fault_cases found stopped
      · exact .inr (.inl ⟨fault, rfl, corrupt, isTold_of_corrupt found stopped corrupt⟩)
      · exact .inr (.inr ⟨digits, rfl, passesThrough_of_overlong found stopped⟩)
  · intro digits
    rw [← read_tooLong_iff, ofFile_error_iff, readPath_file_fault_iff found]
    simp
  · intro short fault failed
    exact corrupt_of_short found short (ofFile_error_iff.mp failed)

/-- A line number whose digit is not of ASCII. -/
theorem ofFile_ends_digit :
    let bytes := Utf8.encode "a.B -> c:\n\t1:٤:int f() -> m\n".toList
    let files := FileSystem.single "m" (.file bytes)
    files.find "m" = .file bytes ∧ HasShortRuns bytes ∧
      (NameIndex.ofFile files "m").result = .error (.badLineNumber 2 "٤") ∧
      (Fault.badLineNumber 2 "٤").kind = .mappingCorrupt ∧ IsTold files "m" (.badLineNumber 2 "٤") := by
  intro bytes files
  have found : files.find "m" = .file bytes := rfl
  have short : HasShortRuns bytes := .of_length (by decide)
  have failed : (NameIndex.ofFile files "m").result = .error (.badLineNumber 2 "٤") := by
    rw [ofFile_error_iff]
    decide
  obtain ⟨⟨index, loaded⟩ | ⟨fault, refused, _, told⟩ | ⟨digits, refused, _⟩, _, corrupt⟩ :=
    ofFile_ends files "m" bytes found
  · cases failed.symm.trans loaded
  · cases failed.symm.trans refused
    exact ⟨found, short, failed, corrupt short _ failed, told⟩
  · cases failed.symm.trans refused

/-- A line number of 4301 digits, most of them zeros, is not told as a corrupt table. -/
theorem ofFile_overlong :
    let text := "a.B -> c:\n int f():".toList ++ (List.replicate 4300 '0' ++ ['7'] ++ " -> d".toList)
    let files := FileSystem.single "m" (.file (Utf8.encode text))
    (NameIndex.ofFile files "m").result = .error (.numeralTooLong 4301) ∧
      (Fault.numeralTooLong 4301).kind ≠ .mappingCorrupt :=
  ⟨ofFile_numbered (isOverlong_zeros 4300 (Nat.le_refl _)), by decide⟩

end Deobfuscator.Proofs.FileFaults
