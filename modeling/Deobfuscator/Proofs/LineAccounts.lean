import Deobfuscator.Proofs.NameIndexContents
import Deobfuscator.Proofs.TableSegments

/-! What becomes of the lines of a table. Each line that is not passed over gives one
entry or one message, in the order of the lines, up to the one that ends the reading.
So no line is lost and none is used twice, and a member belongs to the last header in
front of it. -/

namespace Deobfuscator.Proofs.LineAccounts
open Text Mapping NameIndexContents TableReading TableSegments

/-- The numbers of the lines that are neither blank nor comments. -/
def shownLines (line : Nat) (lines : List (List Char)) : List Nat :=
  ((lines.zipIdx line).filter fun numbered => !isSilent numbered.1).map (·.2)

/-- The line that an entry is of, or that is told to be skipped. -/
def eventLine? : Event → Option Nat
  | .entry entry => some entry.line
  | .notice (.outsideClass line _) | .notice (.unrecognised line _) => some line
  | .notice _ => none

/-- The message that a line is skipped. -/
structure IsSkip (line : Nat) (notice : Notice) : Prop where
  level : notice.level = .debug
  text : ∃ text, notice.text = "Skipping member line " ++ toString line ++ " outside of a class: " ++ quoted text ∨
    notice.text = "Skipping unrecognised line " ++ toString line ++ ": " ++ quoted text

/-- The lines that are read: all of them, or those in front of the line that ends the
reading. Nothing is read after it. -/
inductive ReadUpTo (lines : List (List Char)) : List (List Char) → Prop where
  | all (readable : (read lines).fault = none) : ReadUpTo lines lines
  | stopped {front back : List (List Char)} {raw : List Char} {fault : Fault} (whole : front ++ raw :: back = lines)
      (shown : isSilent raw = false) (readable : (read front).fault = none)
      (fails : (read (front ++ [raw])).fault = some fault) (last : read lines = read (front ++ [raw])) :
      ReadUpTo lines front

def memberOwner? : Entry → Option String
  | .header _ => none
  | .method entry => some entry.owner
  | .field entry => some entry.owner

/-- The class of the last header among some entries, or else the class before them. -/
def lastOwner? (owner : Option String) (entries : List Entry) : Option String :=
  ((classEntries entries).getLast?.map (·.plain)).or owner

variable {owner : Option String} {line : Nat} {raw : List Char} {lines : List (List Char)}

theorem shownLines_cons (line : Nat) (raw : List Char) (lines : List (List Char)) :
    shownLines line (raw :: lines) =
      if isSilent raw then shownLines (line + 1) lines else line :: shownLines (line + 1) lines := by
  rw [shownLines, List.zipIdx_cons, List.filter_cons]
  cases isSilent raw <;> rfl

theorem shownLines_sublist (line : Nat) (lines : List (List Char)) :
    List.Sublist (shownLines line lines) (List.range' line lines.length) := by
  rw [← List.zipIdx_map_snd line lines, shownLines]
  exact List.filter_sublist.map _

theorem lineEffect_cases (owner : Option String) (line : Nat) (raw : List Char) :
    (isSilent raw = true ∧ lineEffect owner line raw = .nothing) ∨
      (isSilent raw = false ∧
        ((∃ event, lineEffect owner line raw = .event event ∧ eventLine? event = some line) ∨
          ∃ fault, lineEffect owner line raw = .fault fault)) := by
  generalize effect : lineEffect owner line raw = found
  cases lineEffect_iff_does.mp effect with
  | nothing silent => exact .inl ⟨silent, rfl⟩
  | header shown | outside shown | method shown | field shown | unrecognised shown =>
    exact .inr ⟨shown, .inl ⟨_, rfl, rfl⟩⟩
  | stray shown | number shown => exact .inr ⟨shown, .inr ⟨_, rfl⟩⟩

/-- In a table that can be read, every line that is not passed over has its event. -/
theorem events_of_readable (readable : (readFrom owner line lines).fault = none) :
    (readFrom owner line lines).events.map eventLine? = (shownLines line lines).map some := by
  induction lines generalizing owner line with
  | nil => rfl
  | cons raw rest ih =>
    rw [readFrom] at readable ⊢
    rw [shownLines_cons]
    obtain ⟨silent, effect⟩ | ⟨shown, ⟨event, effect, numbered⟩ | ⟨fault, effect⟩⟩ := lineEffect_cases owner line raw
    · rw [effect] at readable ⊢
      rw [if_pos silent]
      exact ih readable
    · rw [effect] at readable ⊢
      rw [if_neg (by simp [shown])]
      exact congrArg₂ List.cons numbered (ih readable)
    · rw [effect] at readable
      cases readable

theorem events_account (lines : List (List Char)) :
    ∃ front, ReadUpTo lines front ∧ (read lines).events.map eventLine? = (shownLines 1 front).map some := by
  cases ended : (read lines).fault with
  | none => exact ⟨lines, .all ended, events_of_readable ended⟩
  | some fault =>
    obtain ⟨front, raw, back, rfl, readable, effect⟩ := readFrom_fault_iff.mp ended
    obtain ⟨shown, _⟩ := lineEffect_fault_iff.mp effect
    have whole : read (front ++ raw :: back) = ⟨(read front).events, some fault⟩ := readFrom_append_fault readable effect
    have alone : read (front ++ [raw]) = ⟨(read front).events, some fault⟩ := readFrom_append_fault readable effect
    refine ⟨front, .stopped rfl shown readable (congrArg Reading.fault alone) (whole.trans alone.symm), ?_⟩
    rw [whole]
    exact events_of_readable readable

theorem entryLines_sublist (events : List Event) (fault : Option Fault) :
    List.Sublist ((⟨events, fault⟩ : Reading).entries.map (·.line)) (events.filterMap eventLine?) := by
  induction events with
  | nil => exact .slnil
  | cons event events ih =>
    cases event with
    | entry entry => exact ih.cons_cons entry.line
    | notice notice =>
      rw [List.filterMap_cons]
      cases eventLine? (.notice notice) with
      | none => exact ih
      | some line => exact ih.cons line

theorem ReadUpTo.length_le {front : List (List Char)} (reads : ReadUpTo lines front) : front.length ≤ lines.length := by
  cases reads with
  | all readable => exact Nat.le_refl _
  | stopped whole shown readable fails last =>
    rw [← whole, List.length_append]
    exact Nat.le_add_right _ _

theorem entryLines_counted (lines : List (List Char)) :
    List.Sublist ((read lines).entries.map (·.line)) (List.range' 1 lines.length) := by
  obtain ⟨front, reads, accounts⟩ := events_account lines
  have numbered : (read lines).events.filterMap eventLine? = shownLines 1 front := by
    have parts := congrArg (List.filterMap id) accounts
    rw [List.filterMap_map, List.filterMap_map] at parts
    exact parts.trans List.filterMap_some
  have entries := entryLines_sublist (read lines).events (read lines).fault
  rw [numbered] at entries
  have front_counted := shownLines_sublist 1 front
  have counted : List.Sublist (List.range' 1 front.length) (List.range' 1 lines.length) :=
    List.range'_sublist_right.mpr reads.length_le
  exact (entries.trans front_counted).trans counted

theorem lineEffect_memberOwner {entry : Entry} (effect : lineEffect owner line raw = .event (.entry entry)) :
    ∀ name ∈ memberOwner? entry, owner = some name := by
  intro name member
  cases lineEffect_iff_does.mp effect with
  | header => cases member
  | method =>
    cases member
    rfl
  | field =>
    cases member
    rfl

theorem lastOwner?_cons (owner : Option String) (entry : Entry) (entries : List Entry) :
    lastOwner? owner (entry :: entries) = lastOwner? ((Event.entry entry).owner owner) entries := by
  cases entry with
  | header header =>
    rw [lastOwner?, lastOwner?, classEntries, List.filterMap_cons, List.getLast?_cons, ← classEntries]
    cases (classEntries entries).getLast? <;> rfl
  | method method => rfl
  | field field => rfl

/-- The class that a member was read in is that of the last header in front of it. -/
theorem readFrom_scoped {before after : List Entry} {entry : Entry}
    (placed : (readFrom owner line lines).entries = before ++ entry :: after) :
    ∀ name ∈ memberOwner? entry, lastOwner? owner before = some name := by
  -- On the lines, for any class to start with: a header hands its own to those after it,
  -- and any other line hands on the class it got.
  induction lines generalizing owner line before with
  | nil => cases before <;> cases placed
  | cons raw rest ih =>
    rw [readFrom] at placed
    cases effect : lineEffect owner line raw with
    | nothing =>
      rw [effect] at placed
      exact ih placed
    | fault fault =>
      rw [effect] at placed
      cases before <;> cases placed
    | event event =>
      rw [effect] at placed
      cases event with
      | notice notice => exact ih placed
      | entry found =>
        cases before with
        | nil =>
          obtain ⟨rfl, _⟩ := List.cons.inj placed
          exact lineEffect_memberOwner effect
        | cons first before =>
          obtain ⟨rfl, rest_placed⟩ := List.cons.inj placed
          rw [lastOwner?_cons]
          exact ih rest_placed

theorem readFrom_notices : ∀ notice ∈ (readFrom owner line lines).notices,
    ∃ line, eventLine? (.notice notice) = some line ∧ IsSkip line notice := by
  induction lines generalizing owner line with
  | nil => intro notice member; cases member
  | cons raw rest ih =>
    rw [readFrom]
    cases effect : lineEffect owner line raw with
    | nothing => exact ih
    | fault fault => intro notice member; cases member
    | event event =>
      cases event with
      | entry entry => exact ih
      | notice notice =>
        intro told member
        rcases List.mem_cons.mp member with rfl | member
        · cases lineEffect_iff_does.mp effect with
          | outside => exact ⟨line, rfl, rfl, _, .inl rfl⟩
          | unrecognised => exact ⟨line, rfl, rfl, _, .inr rfl⟩
        · exact ih told member

/-- In any table, the entries stand in the order of their lines, no two on one line, and
every member belongs to the class of the last header in front of it. Each line that is
read and not passed over is accounted for by one event, an entry or a message that names
the line, or it is the one that ends the reading. -/
theorem read_accounts (lines : List (List Char)) :
    ((read lines).entries.map (·.line)).Pairwise (· < ·) ∧
    (∀ entry ∈ (read lines).entries, 1 ≤ entry.line ∧ entry.line ≤ lines.length) ∧
    (∀ before entry after, (read lines).entries = before ++ entry :: after →
      ∀ owner ∈ memberOwner? entry, (classEntries before).getLast?.map (·.plain) = some owner) ∧
    (∃ front, ReadUpTo lines front ∧ (read lines).events.map eventLine? = (shownLines 1 front).map some) ∧
    ∀ notice ∈ (read lines).notices, ∃ line, eventLine? (.notice notice) = some line ∧ IsSkip line notice := by
  have counted := entryLines_counted lines
  refine ⟨?_, ?_, ?_, events_account lines, readFrom_notices⟩
  · exact List.Pairwise.sublist counted List.pairwise_lt_range'
  · intro entry member
    have inside := counted.subset (List.mem_map_of_mem member)
    rw [List.mem_range'_1] at inside
    omega
  · intro before entry after placed owner member
    have last := readFrom_scoped placed owner member
    rwa [lastOwner?, Option.or_none] at last

/-- A member in front of every header, a header without members, a line that is no
member, and a line that cannot be read. -/
theorem read_accounts_skipped :
    let lines := ["  int a -> b", "a.B -> c:", "", "# d", "e.F -> g:", "  int h -> i", "  ?", "j", "k.L -> m:"].map (·.toList)
    let field : Entry := .field ⟨"e.F", "int", "h", "i", 6⟩
    let headers : List Entry := [.header ⟨"a.B", "c", 2⟩, .header ⟨"e.F", "g", 5⟩]
    (read lines).entries = headers ++ [field] ∧ "e.F" ∈ memberOwner? field ∧
      (classEntries headers).getLast?.map (·.plain) = some "e.F" ∧
      .unrecognised 7 "?" ∈ (read lines).notices ∧
      ∃ line, eventLine? (.notice (.unrecognised 7 "?")) = some line ∧ IsSkip line (.unrecognised 7 "?") := by
  intro lines field headers
  obtain ⟨_, _, placed, _, told⟩ := read_accounts lines
  have entries : (read lines).entries = headers ++ [field] := by decide
  have skipped : .unrecognised 7 "?" ∈ (read lines).notices := by decide
  exact ⟨entries, rfl, placed headers field [] entries "e.F" rfl, skipped, told _ skipped⟩

end Deobfuscator.Proofs.LineAccounts
