import Deobfuscator.Proofs.TableReading

/-! A part of a table is read in its place as it is read alone. What stands before it
decides the numbers of its lines, and the class of the members in front of its
first header, but nothing else. -/

namespace Deobfuscator.Proofs.TableSegments
open Text Mapping TextCuts Numerals MethodGrammar TableReading

/-- The written form of a header, by its words. -/
structure IsHeaderText (text plain obfuscated : List Char) : Prop where
  split : words text = [plain, arrow, obfuscated ++ [':']]
  named : obfuscated ≠ []
  colon : ':' ∉ obfuscated

/-- A line is a header that gives a class this name. -/
structure Heads (raw plain obfuscated : List Char) : Prop extends IsHeaderText (strip raw) plain obfuscated where
  shown : isSilent raw = false
  outdented : isIndented raw = false

def IsHeader (raw : List Char) : Prop := ∃ plain obfuscated, Heads raw plain obfuscated

theorem headerName?_iff {word name : List Char} :
    headerName? word = some name ↔ name ++ [':'] = word ∧ name ≠ [] ∧ ':' ∉ name := by
  have pair : pieces ':' word = [name, []] ↔ ':' ∉ name ∧ name ++ [':'] = word := by
    rw [pieces_eq_iff]
    simp [joined]
  rw [headerName?]
  constructor
  · intro read
    split at read
    next found split =>
      split at read
      next => cases read
      next some =>
        cases read
        rw [List.isEmpty_iff] at some
        obtain ⟨colon, whole⟩ := pair.mp split
        exact ⟨whole, some, colon⟩
    next => cases read
  · rintro ⟨whole, some, colon⟩
    rw [pair.mpr ⟨colon, whole⟩]
    simp [some]

theorem headerLine?_iff {text plain obfuscated : List Char} :
    headerLine? text = some ⟨plain, obfuscated⟩ ↔ IsHeaderText text plain obfuscated := by
  rw [headerLine?]
  constructor
  · intro read
    split at read
    next first between last split =>
      split at read
      next same =>
        subst same
        obtain ⟨name, found, pair⟩ := Option.map_eq_some_iff.mp read
        cases pair
        obtain ⟨rfl, some, colon⟩ := headerName?_iff.mp found
        exact ⟨split, some, colon⟩
      next => cases read
    next => cases read
  · rintro ⟨split, some, colon⟩
    rw [split]
    simp [headerName?_iff.mpr ⟨rfl, some, colon⟩]

theorem headerLine?_eq_none_iff {text : List Char} :
    headerLine? text = none ↔ ∀ plain obfuscated, ¬ IsHeaderText text plain obfuscated := by
  simp only [← headerLine?_iff]
  rw [Option.eq_none_iff_forall_ne_some]
  exact ⟨fun none plain obfuscated => none ⟨plain, obfuscated⟩, fun none header => none header.plain header.obfuscated⟩

variable {owner : Option String} {line : Nat} {raw : List Char} {lines front back : List (List Char)}

theorem lineEffect_heads {plain obfuscated : List Char} (heads : Heads raw plain obfuscated) :
    lineEffect owner line raw =
      .event (.entry (.header ⟨String.ofList plain, String.ofList obfuscated, line⟩)) := by
  simp [lineEffect, heads.shown, heads.outdented, headerEffect, headerLine?_iff.mpr heads.toIsHeaderText]

/-- Only a header changes the class of the lines after it. -/
theorem ownerNext_other (other : ¬ IsHeader raw) : ownerNext owner (lineEffect owner line raw) = owner := by
  generalize effect : lineEffect owner line raw = found
  cases lineEffect_iff_does.mp effect with
  | header shown outdented read => exact absurd ⟨_, _, headerLine?_iff.mp read, shown, outdented⟩ other
  | _ => rfl

theorem ownerAfter_other (other : ∀ raw ∈ lines, ¬ IsHeader raw) : ownerAfter owner line lines = owner := by
  induction lines generalizing line with
  | nil => rfl
  | cons raw rest ih =>
    rw [ownerAfter, ownerNext_other (other raw List.mem_cons_self)]
    exact ih fun later member => other later (List.mem_cons_of_mem raw member)

theorem ownerAfter_some_iff :
    ownerAfter owner line lines ≠ none ↔ owner ≠ none ∨ ∃ raw ∈ lines, IsHeader raw := by
  induction lines generalizing owner line with
  | nil => simp [ownerAfter]
  | cons raw rest ih =>
    rw [ownerAfter, ih]
    by_cases header : IsHeader raw
    · have found : ∃ header ∈ raw :: rest, IsHeader header := ⟨raw, List.mem_cons_self, header⟩
      obtain ⟨plain, obfuscated, heads⟩ := header
      rw [lineEffect_heads heads]
      exact iff_of_true (.inl (Option.some_ne_none _)) (.inr found)
    · rw [ownerNext_other header]
      simp [header]

/-- The second reading goes on where the first has ended. -/
def followedBy (first second : Reading) : Reading := ⟨first.events ++ second.events, second.fault⟩

theorem followedBy_cons (event : Event) (first second : Reading) :
    followedBy (.cons event first) second = .cons event (followedBy first second) :=
  rfl

theorem entries_followedBy (first second : Reading) :
    (followedBy first second).entries = first.entries ++ second.entries :=
  List.filterMap_append

/-- Lines that can be read are read, and then those after them. -/
theorem readFrom_append (readable : (readFrom owner line front).fault = none) :
    readFrom owner line (front ++ back) =
      followedBy (readFrom owner line front) (readFrom (ownerAfter owner line front) (line + front.length) back) := by
  induction front generalizing owner line with
  | nil => rfl
  | cons raw front ih =>
    have shift : line + (raw :: front).length = line + 1 + front.length := by
      rw [List.length_cons]
      omega
    rw [List.cons_append, readFrom, readFrom, ownerAfter, shift]
    rw [readFrom] at readable
    cases effect : lineEffect owner line raw with
    | nothing =>
      rw [effect] at readable
      exact ih readable
    | event event =>
      rw [effect] at readable
      dsimp only
      rw [followedBy_cons]
      exact congrArg (Reading.cons event) (ih readable)
    | fault fault =>
      rw [effect] at readable
      cases readable

/-- Nothing is read after a fault. -/
theorem readFrom_append_stopped {fault : Fault} (stopped : (readFrom owner line front).fault = some fault) :
    readFrom owner line (front ++ back) = readFrom owner line front := by
  induction front generalizing owner line with
  | nil => cases stopped
  | cons raw front ih =>
    rw [List.cons_append, readFrom, readFrom]
    rw [readFrom] at stopped
    cases effect : lineEffect owner line raw with
    | nothing =>
      rw [effect] at stopped
      exact ih stopped
    | event event =>
      rw [effect] at stopped
      exact congrArg (Reading.cons event) (ih stopped)
    | fault fault => rfl

/-- A line that ends a reading adds no event to those of the lines in front of it. -/
theorem readFrom_append_fault {fault : Fault} (readable : (readFrom owner line front).fault = none)
    (effect : lineEffect (ownerAfter owner line front) (line + front.length) raw = .fault fault) :
    readFrom owner line (front ++ raw :: back) = ⟨(readFrom owner line front).events, some fault⟩ := by
  rw [readFrom_append readable, readFrom_stopped effect, followedBy, List.append_nil]

/-- An entry so many lines further down. -/
def moveEntry (offset : Nat) : Entry → Entry
  | .header entry => .header { entry with line := entry.line + offset }
  | .method entry => .method { entry with line := entry.line + offset }
  | .field entry => .field { entry with line := entry.line + offset }

def moveNotice (offset : Nat) : Notice → Notice
  | .outsideClass line text => .outsideClass (line + offset) text
  | .unrecognised line text => .unrecognised (line + offset) text
  | notice => notice

def moveEvent (offset : Nat) : Event → Event
  | .entry entry => .entry (moveEntry offset entry)
  | .notice notice => .notice (moveNotice offset notice)

/-- A fault so many lines further down. What is wrong does not change. -/
def moveFault (offset : Nat) : Fault → Fault
  | .notAHeader line text => .notAHeader (line + offset) text
  | .badLineNumber line number => .badLineNumber (line + offset) number
  | fault => fault

def moveEffect (offset : Nat) : Effect → Effect
  | .nothing => .nothing
  | .event event => .event (moveEvent offset event)
  | .fault fault => .fault (moveFault offset fault)

def moveReading (offset : Nat) (reading : Reading) : Reading :=
  ⟨reading.events.map (moveEvent offset), reading.fault.map (moveFault offset)⟩

theorem moveFault_kind (offset : Nat) (fault : Fault) : (moveFault offset fault).kind = fault.kind := by
  fun_cases moveFault offset fault <;> rfl

theorem entries_move (offset : Nat) (reading : Reading) :
    (moveReading offset reading).entries = reading.entries.map (moveEntry offset) := by
  rw [Reading.entries, Reading.entries, moveReading, List.filterMap_map, List.map_filterMap]
  congr 1
  funext event
  cases event <;> rfl

theorem readLineNumber_move (offset : Nat) (number : List Char) :
    readLineNumber (line + offset) number = (readLineNumber line number).mapError (moveFault offset) := by
  rw [readLineNumber, readLineNumber]
  split <;> rfl

theorem range_move (offset : Nat) (method : MethodLine) :
    method.range (line + offset) = (method.range line).mapError (moveFault offset) := by
  rw [MethodLine.range, MethodLine.range]
  rcases method.governing with _ | ⟨first, last⟩
  · rfl
  · dsimp only
    rw [readLineNumber_move, readLineNumber_move]
    cases readLineNumber line first with
    | error fault => rfl
    | ok n => cases readLineNumber line last <;> rfl

/-- A line does the same further down, but for its number. -/
theorem does_move (offset : Nat) {effect : Effect} (does : Does line raw owner effect) :
    Does (line + offset) raw owner (moveEffect offset effect) := by
  cases does with
  | nothing silent => exact .nothing silent
  | header shown outdented read => exact .header shown outdented read
  | stray shown outdented other => exact .stray shown outdented other
  | outside shown indented => exact .outside shown indented
  | method shown indented read numbers =>
    have numbers' := (range_move offset _).trans (congrArg (Except.mapError (moveFault offset)) numbers)
    exact .method shown indented read numbers'
  | number shown indented read refused =>
    have refused' := (range_move offset _).trans (congrArg (Except.mapError (moveFault offset)) refused)
    exact .number shown indented read refused'
  | field shown indented other read => exact .field shown indented other read
  | unrecognised shown indented noMethod noField => exact .unrecognised shown indented noMethod noField

theorem lineEffect_move (offset : Nat) :
    lineEffect owner (line + offset) raw = moveEffect offset (lineEffect owner line raw) :=
  lineEffect_iff_does.mpr (does_move offset (does_lineEffect owner line raw))

theorem owner_move (offset : Nat) (event : Event) : (moveEvent offset event).owner owner = event.owner owner := by
  cases event with
  | notice notice => rfl
  | entry entry => cases entry <;> rfl

/-- A table further down is read as the table, but for the numbers of its lines. -/
theorem readFrom_move (offset : Nat) :
    readFrom owner (line + offset) lines = moveReading offset (readFrom owner line lines) := by
  induction lines generalizing owner line with
  | nil => rfl
  | cons raw rest ih =>
    have shift : line + offset + 1 = line + 1 + offset := by omega
    rw [readFrom, readFrom, lineEffect_move, shift]
    cases lineEffect owner line raw with
    | nothing => exact ih
    | event event =>
      dsimp only [moveEffect]
      rw [owner_move, ih]
      rfl
    | fault fault => rfl

/-- The first line that is not passed over, if there is one, is not indented. -/
def StartsOutdented (lines : List (List Char)) : Prop :=
  ∀ raw ∈ lines.find? (!isSilent ·), isIndented raw = false

/-- Lines that start with no member do not depend on the class before them. -/
theorem readFrom_outdented (owner owner' : Option String) (starts : StartsOutdented lines) :
    readFrom owner line lines = readFrom owner' line lines := by
  induction lines generalizing line with
  | nil => rfl
  | cons raw rest ih =>
    cases silent : isSilent raw with
    | true =>
      have skipped (owner : Option String) : lineEffect owner line raw = .nothing := by simp [lineEffect, silent]
      have starts' : StartsOutdented rest := by simpa [StartsOutdented, silent] using starts
      rw [readFrom, readFrom, skipped, skipped]
      exact ih starts'
    | false =>
      have outdented : isIndented raw = false := by simpa [StartsOutdented, silent] using starts
      have plain (owner : Option String) : lineEffect owner line raw = headerEffect line (strip raw) := by
        simp [lineEffect, silent, outdented]
      rw [readFrom, readFrom, plain, plain, headerEffect]
      -- A header sets the class for both, and anything else ends both.
      cases headerLine? (strip raw) <;> rfl

/-- A table after another is read as it is alone, if its first members stand below
a header of its own or below none at all. -/
theorem read_append (joins : StartsOutdented back ∨ ∀ raw ∈ front, ¬ IsHeader raw)
    (readable : (read front).fault = none) :
    read (front ++ back) = followedBy (read front) (moveReading front.length (read back)) := by
  have alone : readFrom (ownerAfter none 1 front) (1 + front.length) back = moveReading front.length (read back) := by
    rw [Mapping.read, ← readFrom_move]
    rcases joins with starts | other
    · exact readFrom_outdented _ _ starts
    · rw [ownerAfter_other other]
  rw [Mapping.read, readFrom_append readable, alone]
  rfl

end Deobfuscator.Proofs.TableSegments
