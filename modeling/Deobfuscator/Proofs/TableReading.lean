import Deobfuscator.Mapping.Bytes
import Deobfuscator.Proofs.MethodGrammar

/-! How a table is read, line by line up to the first fault. What ends a reading is
one line after lines that can be read, and what holds of the entry of every line
holds of the entries of every file. -/

namespace Deobfuscator.Proofs.TableReading
open Text Mapping TextCuts Numerals MethodGrammar

/-- The class that the lines after one belong to. -/
def ownerNext (owner : Option String) : Effect → Option String
  | .event event => event.owner owner
  | .nothing | .fault _ => owner

/-- The class that the lines after some belong to. -/
def ownerAfter (owner : Option String) (line : Nat) : List (List Char) → Option String
  | [] => owner
  | raw :: rest => ownerAfter (ownerNext owner (lineEffect owner line raw)) (line + 1) rest

variable {owner : Option String} {line : Nat} {raw : List Char} {lines : List (List Char)}

theorem readFrom_stopped {fault : Fault} (effect : lineEffect owner line raw = .fault fault) :
    readFrom owner line (raw :: lines) = ⟨[], some fault⟩ := by
  rw [readFrom, effect]

theorem fault_of_readable (readable : ∀ fault, lineEffect owner line raw ≠ .fault fault) :
    (readFrom owner line (raw :: lines)).fault =
      (readFrom (ownerNext owner (lineEffect owner line raw)) (line + 1) lines).fault := by
  rw [readFrom]
  cases effect : lineEffect owner line raw with
  | nothing => rfl
  | event event => rfl
  | fault fault => exact absurd effect (readable fault)

/-- A reading ends by the fault of the first line that is one. -/
theorem readFrom_fault_iff {fault : Fault} :
    (readFrom owner line lines).fault = some fault ↔
      ∃ front raw back, front ++ raw :: back = lines ∧ (readFrom owner line front).fault = none ∧
        lineEffect (ownerAfter owner line front) (line + front.length) raw = .fault fault := by
  -- On the lines, for any class and number to start with: nothing comes before a
  -- first line that is a fault, and any other first line comes before the fault.
  induction lines generalizing owner line with
  | nil => simp [readFrom]
  | cons first rest ih =>
    by_cases stopped : ∃ found, lineEffect owner line first = .fault found
    · obtain ⟨found, effect⟩ := stopped
      rw [readFrom_stopped effect]
      constructor
      · rintro ⟨⟩
        exact ⟨[], first, rest, rfl, rfl, effect⟩
      · rintro ⟨front, raw, back, whole, readable, effect'⟩
        cases front with
        | nil =>
          obtain ⟨rfl, rfl⟩ := List.cons.inj whole
          exact congrArg some (Effect.fault.inj (effect.symm.trans effect'))
        | cons next front =>
          obtain ⟨rfl, rfl⟩ := List.cons.inj whole
          rw [readFrom_stopped effect] at readable
          cases readable
    · have readable : ∀ found, lineEffect owner line first ≠ .fault found := fun found effect => stopped ⟨found, effect⟩
      have shift (front : List (List Char)) : line + 1 + front.length = line + (first :: front).length := by
        rw [List.length_cons]
        omega
      rw [fault_of_readable readable, ih]
      constructor
      · rintro ⟨front, raw, back, rfl, readable', effect⟩
        rw [shift] at effect
        exact ⟨first :: front, raw, back, rfl, (fault_of_readable readable).trans readable', effect⟩
      · rintro ⟨front, raw, back, whole, readable', effect⟩
        cases front with
        | nil =>
          obtain ⟨rfl, rfl⟩ := List.cons.inj whole
          exact absurd effect (readable fault)
        | cons next front =>
          obtain ⟨rfl, rfl⟩ := List.cons.inj whole
          rw [fault_of_readable readable] at readable'
          rw [← shift] at effect
          exact ⟨front, raw, back, rfl, readable', effect⟩

theorem readLineNumber_error_iff {number : List Char} {fault : Fault} :
    readLineNumber line number = .error fault ↔
      (¬ IsDigits number ∧ fault = .badLineNumber line (String.ofList number)) ∨
        ∃ count, IsOverlong number count ∧ fault = .numeralTooLong count := by
  simp only [← readNatural_malformed_iff, ← readNatural_tooLong_iff]
  rw [readLineNumber]
  split
  next n read => simp [read]
  next read => simp [read, eq_comm]
  next count read => simp [read, eq_comm]

theorem range_error_iff {method : MethodLine} {fault : Fault} : method.range line = .error fault ↔
    ∃ first last, method.governing = some (first, last) ∧
      (readLineNumber line first = .error fault ∨
        IsNumeral first ∧ readLineNumber line last = .error fault) := by
  have numeral {number : List Char} : IsNumeral number ↔ ∃ n, readLineNumber line number = .ok n := by
    simp [readLineNumber_ok_iff]
  rw [MethodLine.range]
  rcases method.governing with _ | ⟨first, last⟩
  · simp
  · simp only [numeral, Option.some.injEq, Prod.mk.injEq]
    cases first_read : readLineNumber line first with
    | error found => simp [first_read, bind, Except.bind]
    | ok n =>
      cases last_read : readLineNumber line last with
      | error found => simp [first_read, last_read, bind, Except.bind]
      | ok m => simp [first_read, last_read, bind, Except.bind, pure, Except.pure]

/-- What a line does, by its look, its text and the class it belongs to. -/
inductive Does (line : Nat) (raw : List Char) : Option String → Effect → Prop where
  | nothing {owner : Option String} (silent : isSilent raw = true) : Does line raw owner .nothing
  | header {owner : Option String} {header : HeaderLine} (shown : isSilent raw = false)
      (outdented : isIndented raw = false) (read : headerLine? (strip raw) = some header) :
      Does line raw owner
        (.event (.entry (.header ⟨String.ofList header.plain, String.ofList header.obfuscated, line⟩)))
  | stray {owner : Option String} (shown : isSilent raw = false) (outdented : isIndented raw = false)
      (other : headerLine? (strip raw) = none) :
      Does line raw owner (.fault (.notAHeader line (String.ofList (strip raw))))
  | outside (shown : isSilent raw = false) (indented : isIndented raw = true) :
      Does line raw none (.event (.notice (.outsideClass line (String.ofList (strip raw)))))
  | method {current : String} {method : MethodLine} {range : Nat × Nat} (shown : isSilent raw = false)
      (indented : isIndented raw = true) (read : methodLine? (strip raw) = some method)
      (numbers : method.range line = .ok range) :
      Does line raw (some current) (.event (.entry (.method (method.entry current line range))))
  | number {current : String} {method : MethodLine} {fault : Fault} (shown : isSilent raw = false)
      (indented : isIndented raw = true) (read : methodLine? (strip raw) = some method)
      (refused : method.range line = .error fault) : Does line raw (some current) (.fault fault)
  | field {current : String} {field : FieldLine} (shown : isSilent raw = false) (indented : isIndented raw = true)
      (other : methodLine? (strip raw) = none) (read : fieldLine? (strip raw) = some field) :
      Does line raw (some current) (.event (.entry (.field
        ⟨current, String.ofList field.fieldType, String.ofList field.name, String.ofList field.obfuscated, line⟩)))
  | unrecognised {current : String} (shown : isSilent raw = false) (indented : isIndented raw = true)
      (noMethod : methodLine? (strip raw) = none) (noField : fieldLine? (strip raw) = none) :
      Does line raw (some current) (.event (.notice (.unrecognised line (String.ofList (strip raw)))))

theorem does_lineEffect (owner : Option String) (line : Nat) (raw : List Char) :
    Does line raw owner (lineEffect owner line raw) := by
  unfold lineEffect
  dsimp only
  cases shown : isSilent raw with
  | true => exact .nothing shown
  | false =>
    cases indented : isIndented raw with
    | false =>
      simp only [headerEffect]
      cases read : headerLine? (strip raw) with
      | none => exact .stray shown indented read
      | some header => exact .header shown indented read
    | true =>
      cases owner with
      | none => exact .outside shown indented
      | some owner =>
        simp only [memberEffect]
        cases read : methodLine? (strip raw) with
        | some method =>
          dsimp only
          cases numbers : method.range line with
          | ok range => exact .method shown indented read numbers
          | error fault => exact .number shown indented read numbers
        | none =>
          cases read' : fieldLine? (strip raw) with
          | some field => exact .field shown indented read read'
          | none => exact .unrecognised shown indented read read'

/-- A line does one thing only. -/
theorem lineEffect_iff_does {effect : Effect} : lineEffect owner line raw = effect ↔ Does line raw owner effect := by
  constructor
  · rintro rfl
    exact does_lineEffect owner line raw
  · intro does
    -- A case names every test on its way, so each of them is decided.
    cases does <;> simp [lineEffect, headerEffect, memberEffect, *]

theorem lineEffect_fault_iff {fault : Fault} : lineEffect owner line raw = .fault fault ↔
    isSilent raw = false ∧
      ((isIndented raw = false ∧ headerLine? (strip raw) = none ∧
          fault = .notAHeader line (String.ofList (strip raw))) ∨
        isIndented raw = true ∧ owner ≠ none ∧
          ∃ method, methodLine? (strip raw) = some method ∧ method.range line = .error fault) := by
  rw [lineEffect_iff_does]
  constructor
  · intro does
    cases does with
    | stray shown outdented other => exact ⟨shown, .inl ⟨outdented, other, rfl⟩⟩
    | number shown indented read refused =>
      exact ⟨shown, .inr ⟨indented, Option.some_ne_none _, _, read, refused⟩⟩
  · rintro ⟨shown, ⟨outdented, other, rfl⟩ | ⟨indented, inside, method, read, refused⟩⟩
    · exact .stray shown outdented other
    · obtain ⟨current, rfl⟩ := Option.ne_none_iff_exists'.mp inside
      exact .number shown indented read refused

theorem read_fault_cases {fault : Fault} (stopped : (read lines).fault = some fault) :
    (∃ line text, fault = .notAHeader line text) ∨ (∃ line number, fault = .badLineNumber line number) ∨
      ∃ digits, fault = .numeralTooLong digits := by
  obtain ⟨front, raw, back, _, _, effect⟩ := readFrom_fault_iff.mp stopped
  obtain ⟨_, ⟨_, _, rfl⟩ | ⟨_, _, method, _, refused⟩⟩ := lineEffect_fault_iff.mp effect
  · exact .inl ⟨_, _, rfl⟩
  · obtain ⟨first, last, _, refused⟩ := range_error_iff.mp refused
    have number : ∃ number, readLineNumber (1 + front.length) number = .error fault := by
      rcases refused with refused | ⟨_, refused⟩
      · exact ⟨first, refused⟩
      · exact ⟨last, refused⟩
    obtain ⟨number, refused⟩ := number
    obtain ⟨_, rfl⟩ | ⟨digits, _, rfl⟩ := readLineNumber_error_iff.mp refused
    · exact .inr (.inl ⟨_, _, rfl⟩)
    · exact .inr (.inr ⟨digits, rfl⟩)

/-- What holds of the entry of every line holds of all entries of a table. It may
rest on what the class and the number of a line are, which each line hands on. -/
theorem readFrom_entries {P : Entry → Prop} (Place : Option String → Nat → Prop) (start : Place owner line)
    (next : ∀ owner line, ∀ raw ∈ lines, Place owner line →
      Place (ownerNext owner (lineEffect owner line raw)) (line + 1))
    (each : ∀ owner line, ∀ raw ∈ lines, Place owner line →
      ∀ entry, lineEffect owner line raw = .event (.entry entry) → P entry) :
    ∀ entry ∈ (readFrom owner line lines).entries, P entry := by
  induction lines generalizing owner line with
  | nil => intro entry member; cases member
  | cons raw rest ih =>
    have later := ih (next owner line raw List.mem_cons_self start)
      (fun owner line raw member => next owner line raw (List.mem_cons_of_mem _ member))
      (fun owner line raw member => each owner line raw (List.mem_cons_of_mem _ member))
    intro entry member
    rw [readFrom] at member
    cases effect : lineEffect owner line raw with
    | nothing =>
      rw [effect] at member later
      exact later entry member
    | event event =>
      rw [effect] at member later
      cases event with
      | notice notice => exact later entry member
      | entry found =>
        rcases List.mem_cons.mp member with rfl | member
        · exact each owner line raw List.mem_cons_self start entry effect
        · exact later entry member
    | fault fault =>
      rw [effect] at member
      cases member

/-- The lines that can be read of what is found under a path. -/
def linesOf : Lookup → List (List Char)
  | .file bytes => (byteLines bytes).1
  | .broken bytes _ => (brokenLines bytes).1
  | .closed _ | .refused _ | .embeddedNull => []

/-- The malformed span that ends these lines. -/
def malformedOf : Lookup → Option Utf8.Fault
  | .file bytes => (byteLines bytes).2
  | .broken bytes _ => (brokenLines bytes).2
  | .closed _ | .refused _ | .embeddedNull => none

/-- What ends these lines without a malformed span, unless it is the end of the file. -/
def stopOf (path : String) : Lookup → Option Fault
  | .file _ => none
  | .broken _ refusal => some (.readingFailed refusal)
  | .closed refusal | .refused refusal => some (.unreadable path refusal)
  | .embeddedNull => some .embeddedNull

/-- A file is read as its lines are, and a fault in one of them comes before what
ends them. -/
theorem readPath_eq (files : FileSystem) (path : String) :
    let found := files.find path
    readPath files path =
      (read (linesOf found)).endingWith (((malformedOf found).map (.undecodable path)).or (stopOf path found)) := by
  dsimp only
  rw [readPath]
  cases files.find path with
  | file bytes => rw [stopOf, Option.or_none]; rfl
  | broken bytes refusal =>
    unfold readBroken
    dsimp only [linesOf, malformedOf, stopOf]
    cases (brokenLines bytes).2 <;> rfl
  | closed refusal => rfl
  | refused refusal => rfl
  | embeddedNull => rfl

/-- Names that stand in a response are words. -/
def IsNamed : Entry → Prop
  | .header entry => IsWord entry.plain.toList
  | .method entry => IsWord entry.plain.toList
  | .field _ => True

theorem headerLine?_isWord {text : List Char} {header : HeaderLine} (read : headerLine? text = some header) :
    IsWord header.plain := by
  rw [headerLine?] at read
  split at read
  next plain between last split =>
    split at read
    next =>
      obtain ⟨name, _, rfl⟩ := Option.map_eq_some_iff.mp read
      exact isWord_of_mem_words (split ▸ List.mem_cons_self)
    next => cases read
  next => cases read

theorem methodLine?_isWord {text : List Char} {method : MethodLine} (read : methodLine? text = some method) :
    IsWord method.name := by
  simp only [methodLine?, bind, Option.bind_eq_some_iff, Prod.exists] at read
  obtain ⟨_, _, _, name, _, _, named, _, _, _, same⟩ := read
  cases same
  exact (methodName?_iff.mp named).2.1.word

theorem lineEffect_isNamed {entry : Entry} (effect : lineEffect owner line raw = .event (.entry entry)) :
    IsNamed entry := by
  cases lineEffect_iff_does.mp effect with
  | header shown outdented read =>
    rw [IsNamed, String.toList_ofList]
    exact headerLine?_isWord read
  | method shown indented read numbers =>
    rw [IsNamed, MethodLine.entry, String.toList_ofList]
    exact methodLine?_isWord read
  | field => exact trivial

theorem readFrom_isNamed : ∀ entry ∈ (readFrom owner line lines).entries, IsNamed entry :=
  readFrom_entries (fun _ _ => True) trivial (fun _ _ _ _ _ => trivial)
    fun _ _ _ _ _ _ effect => lineEffect_isNamed effect

end Deobfuscator.Proofs.TableReading
