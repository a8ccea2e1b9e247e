import Deobfuscator.Proofs.PlainTemplates
import Deobfuscator.Proofs.RequestOutcomes
import Deobfuscator.Proofs.RequestWords
import Deobfuscator.Proofs.ResolverTransparency

/-! Which requests get a response. A fault escapes if a number has too many digits,
in the request or in the table, if the file system refuses to say whether there is
a file, and if a file cannot be read to its end. Nothing else is left unanswered. -/

namespace Deobfuscator.Proofs.RequestTotality
open Template (Memory)
open Text Mapping TextCuts Numerals TableReading PlainTemplates RequestOutcomes

/-- The range of a method holds a number with too many digits, and no number before
it that is refused. -/
def HasOverlongRange (method : MethodLine) (digits : Nat) : Prop :=
  ∃ first last, method.governing = some (first, last) ∧
    (IsOverlong first digits ∨ IsNumeral first ∧ IsOverlong last digits)

/-- The first line that is refused is a method with such a range. -/
def StopsOverlong (lines : List (List Char)) (digits : Nat) : Prop :=
  ∃ front raw back method, front ++ raw :: back = lines ∧ (read front).fault = none ∧
    ownerAfter none 1 front ≠ none ∧ isSilent raw = false ∧ isIndented raw = true ∧
      methodLine? (strip raw) = some method ∧ HasOverlongRange method digits

theorem range_tooLong_iff {method : MethodLine} {line digits : Nat} :
    method.range line = .error (.numeralTooLong digits) ↔ HasOverlongRange method digits := by
  simp [range_error_iff, readLineNumber_error_iff, HasOverlongRange]

theorem read_tooLong_iff {lines : List (List Char)} {digits : Nat} :
    (read lines).fault = some (.numeralTooLong digits) ↔ StopsOverlong lines digits := by
  rw [Mapping.read, readFrom_fault_iff]
  constructor
  · rintro ⟨front, raw, back, whole, readable, effect⟩
    obtain ⟨shown, ⟨_, _, other⟩ | ⟨indented, owned, method, written, refused⟩⟩ := lineEffect_fault_iff.mp effect
    · cases other
    · exact ⟨front, raw, back, method, whole, readable, owned, shown, indented, written, range_tooLong_iff.mp refused⟩
  · rintro ⟨front, raw, back, method, whole, readable, owned, shown, indented, written, overlong⟩
    refine ⟨front, raw, back, whole, readable, ?_⟩
    exact lineEffect_fault_iff.mpr ⟨shown, .inr ⟨indented, owned, method, written, range_tooLong_iff.mpr overlong⟩⟩

/-- What is found under the path of a version makes a request fail. -/
inductive FileEscapes (path : String) : Lookup → Fault → Prop where
  | refused (refusal : Refusal) (unknown : refusal.isAbsence = false) :
      FileEscapes path (.refused refusal) (.pathRefused ⟨path, refusal⟩)
  | overlong {found : Lookup} {digits : Nat} (stops : StopsOverlong (linesOf found) digits) :
      FileEscapes path found (.numeralTooLong digits)
  | failing (bytes : List UInt8) (refusal : Refusal) (readable : (read (linesOf (.broken bytes refusal))).fault = none)
      (decoded : malformedOf (.broken bytes refusal) = none) :
      FileEscapes path (.broken bytes refusal) (.readingFailed refusal)

theorem fileEscapes_iff {path : String} {found : Lookup} {fault : Fault} :
    FileEscapes path found fault ↔ Unloadable path found fault ∧ ¬ IsFailure fault := by
  constructor
  · intro escapes
    cases escapes with
    | refused refusal unknown => exact ⟨.refused refusal unknown, by simp [IsFailure, Fault.kind]⟩
    | overlong stops => exact ⟨.line (read_tooLong_iff.mpr stops), by simp [IsFailure, Fault.kind]⟩
    | failing bytes refusal readable decoded =>
      exact ⟨.failing bytes refusal readable decoded, by simp [IsFailure, Fault.kind]⟩
  · rintro ⟨unloadable, other⟩
    cases unloadable with
    | absent refusal absence => exact absurd (.inl rfl) other
    | refused refusal unknown => exact .refused refusal unknown
    | unnamed => exact absurd (.inl rfl) other
    | closed refusal => exact absurd (.inl rfl) other
    | line stopped =>
      obtain ⟨_, _, rfl⟩ | ⟨_, _, rfl⟩ | ⟨digits, rfl⟩ := read_fault_cases stopped
      · exact absurd (.inr rfl) other
      · exact absurd (.inr rfl) other
      · exact .overlong (read_tooLong_iff.mp stopped)
    | malformed cause readable spanned => exact absurd (.inr rfl) other
    | failing bytes refusal readable decoded => exact .failing bytes refusal readable decoded

/-- What makes a request fail without a response. -/
inductive Escapes (resolver : Resolver) (files : FileSystem) (memory : Memory) (request : String) : Fault → Prop where
  | line {version className method word : List Char} {more : List (List Char)} {digits : Nat}
      (split : words request.toList = version :: className :: method :: word :: more)
      (overlong : IsOverlong (unsigned word) digits) : Escapes resolver files memory request (.numeralTooLong digits)
  | file {query : Query} {path : SlashPath} {fault : Fault} (read : Query.read request = .ok query)
      (absent : query.version ∉ resolver.cache.versions)
      (located : resolver.archive.pathOf memory query.version = .ok path)
      (escapes : FileEscapes path.toString (files.find path.toString) fault) :
      Escapes resolver files memory request fault

variable {directory front back : String}

theorem stuck_iff {request : String} {fault : Fault} :
    Query.read request = .error fault ∧ fault.kind ≠ .requestMalformed ↔
      ∃ version className method word more digits,
        words request.toList = version :: className :: method :: word :: more ∧
          IsOverlong (unsigned word) digits ∧ fault = .numeralTooLong digits := by
  rw [Query.read, ofWords_error_iff]
  constructor
  · rintro ⟨⟨_, rfl⟩ | ⟨version, className, method, word, more, split, refused⟩, other⟩
    · exact absurd rfl other
    · obtain ⟨_, rfl⟩ | ⟨digits, overlong, rfl⟩ := readLine_error_iff.mp refused
      · exact absurd rfl other
      · exact ⟨version, className, method, word, more, digits, split, overlong, rfl⟩
  · rintro ⟨version, className, method, word, more, digits, split, overlong, rfl⟩
    refine ⟨.inr ⟨version, className, method, word, more, split, ?_⟩, by simp [Fault.kind]⟩
    exact readLine_error_iff.mpr (.inr ⟨digits, overlong, rfl⟩)

theorem load_escapes_iff (front_free : BraceFree front) (back_free : BraceFree back) {files : FileSystem}
    {memory : Memory} {version : String} {fault : Fault} :
    let archive : Archive := ⟨directory, plain front back⟩
    (archive.load files memory version).result = .error fault ∧ ¬ IsFailure fault ↔
      ∃ path, archive.pathOf memory version = .ok path ∧ FileEscapes path.toString (files.find path.toString) fault := by
  intro archive
  rw [load_error_iff]
  constructor
  · rintro ⟨unlocated | ⟨path, located, unloadable⟩, other⟩
    · rw [pathOf_plain_fault front_free back_free unlocated] at other
      exact absurd (.inl rfl) other
    · exact ⟨path, located, fileEscapes_iff.mpr ⟨unloadable, other⟩⟩
  · rintro ⟨path, located, escapes⟩
    obtain ⟨unloadable, other⟩ := fileEscapes_iff.mp escapes
    exact ⟨.inr ⟨path, located, unloadable⟩, other⟩

/-- A request gets a response unless a fault escapes, whatever the cache holds: a
malformed request, a version without a file that can be opened and a table that
cannot be read are told to the client, up to what escapes. -/
theorem respond_or_escapes (directory front back : String) (front_free : BraceFree front) (back_free : BraceFree back)
    (cache : Cache NameIndex) (files : FileSystem) (memory : Memory) (request : String) :
    let resolver : Resolver := ⟨⟨directory, plain front back⟩, cache⟩
    (∀ fault, (resolver.respond files memory request).2.result = .error fault ↔
      Escapes resolver files memory request fault) ∧
      ∀ response, (resolver.respond files memory request).2.result = .ok response →
        (∃ rest, response = "OK: " ++ rest) ∨ ∃ rest, response = "ERROR: " ++ rest := by
  intro resolver
  refine ⟨?_, ?_⟩
  · intro fault
    rw [respond_error_iff, stuck_iff]
    constructor
    · rintro (⟨_, _, _, _, _, digits, split, overlong, rfl⟩ | ⟨query, read, failed, other⟩)
      · exact .line split overlong
      · obtain ⟨absent, failed⟩ := indexOf_error_iff.mp failed
        obtain ⟨path, located, escapes⟩ := (load_escapes_iff front_free back_free).mp ⟨failed, other⟩
        exact .file read absent located escapes
    · intro escapes
      cases escapes with
      | line split overlong => exact .inl ⟨_, _, _, _, _, _, split, overlong, rfl⟩
      | file read absent located escapes =>
        obtain ⟨failed, other⟩ := (load_escapes_iff front_free back_free).mpr ⟨_, located, escapes⟩
        exact .inr ⟨_, read, indexOf_error_iff.mpr ⟨absent, failed⟩, other⟩
  · intro response responded
    have ends := respond_ends resolver files memory request
    rw [responded] at ends
    cases ends with
    | unread unread malformed => exact .inr ⟨_, rfl⟩
    | found read got => exact .inl ⟨_, by rw [Finding.response, String.append_assoc, String.append_assoc]⟩
    | failed read failed failure => exact .inr ⟨_, rfl⟩

/-- A directory that may not be searched: its refusal is not told to the client as a
file that is not there. -/
theorem respond_or_escapes_denied :
    let resolver : Resolver := ⟨⟨"m", plain "aerofs-" "-public.map"⟩, .withCapacity 1 Nat.one_pos⟩
    let files : FileSystem := .single "m/aerofs-1-public.map" (.refused .denied)
    let memory : Memory := .constant "0x10"
    BraceFree "aerofs-" ∧ BraceFree "-public.map" ∧
      (resolver.respond files memory "1 a").2.result = .error (.pathRefused ⟨"m/aerofs-1-public.map", .denied⟩) := by
  intro resolver files memory
  have front_free : BraceFree "aerofs-" := by decide
  have back_free : BraceFree "-public.map" := by decide
  have escapes := (respond_or_escapes "m" "aerofs-" "-public.map" front_free back_free resolver.cache files memory
    "1 a").1
    (.pathRefused ⟨"m/aerofs-1-public.map", .denied⟩)
  have read : Query.read "1 a" = .ok ⟨"1", ⟨"a", none, none⟩⟩ := by decide
  have located : resolver.archive.pathOf memory "1" = .ok ⟨.relative, ["m", "aerofs-1-public.map"]⟩ := by decide
  exact ⟨front_free, back_free, escapes.mpr (.file read List.not_mem_nil located (.refused .denied rfl))⟩

private theorem words_overlong {numeral : List Char} (valid : IsDigits numeral) :
    words ("1 c m -" ++ String.ofList numeral).toList = [['1'], ['c'], ['m'], '-' :: numeral] := by
  have word : IsWord ('-' :: numeral) := by
    refine ⟨List.cons_ne_nil _ _, ?_⟩
    exact BlankFree.append (by decide : BlankFree ['-']) (RequestWords.digits_blankFree valid)
  have last := words_word_append word (by simp : ∀ c ∈ [].head?, isBlank c = true)
  rw [List.append_nil] at last
  rw [String.toList_append, String.toList_ofList (l := numeral)]
  change [['1'], ['c'], ['m']] ++ words ('-' :: numeral) = _
  rw [last]
  rfl

/-- An integer with one digit more than are read gets no response. -/
theorem respond_overlong :
    let resolver := ResolverTransparency.fresh ⟨"m", plain "aerofs-" "-public.map"⟩ 100 (by decide)
    ∀ memory, (resolver.respond .nothing memory ("1 c m -" ++ String.ofList (List.replicate 4301 '7'))).2.result =
      .error (.numeralTooLong 4301) := by
  intro resolver memory
  -- For any count, as evaluation would spell out every digit of a fixed one.
  have overlong (count : Nat) (long : 4300 < count) : IsOverlong (List.replicate count '7') count := by
    refine ⟨⟨?_, ?_⟩, ?_, List.length_replicate⟩
    · rw [Ne, List.replicate_eq_nil_iff]
      omega
    · intro c inside
      rw [List.eq_of_mem_replicate inside]
      decide
    · rw [List.length_replicate]
      exact long
  have valid := overlong 4301 (by omega)
  exact respond_error_iff.mpr (.inl (stuck_iff.mpr ⟨_, _, _, _, _, _, words_overlong valid.toIsDigits, valid, rfl⟩))

end Deobfuscator.Proofs.RequestTotality
