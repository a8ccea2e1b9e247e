import Deobfuscator.Proofs.TableMerge
import Mathlib.Logic.Relation

/-! Tables that differ in their layout. Of a line only the text between its blanks
counts, and whether it is indented; lines that are no header and no method come and
go unseen. What a table loads as is settled by the rest. -/

namespace Deobfuscator.Proofs.LayoutEdits
open Text Mapping NameIndex TextCuts MethodGrammar TableReading TableSegments TableMerge

/-- A line that is blank, a comment, or indented and not the written form of a method. -/
inductive IsIdle (raw : List Char) : Prop where
  | blank (nothing : strip raw = [])
  | comment (rest : List Char) (marked : strip raw = '#' :: rest)
  | member (indented : isIndented raw = true) (other : ∀ form : Form, form.WellFormed → form.text ≠ strip raw)

/-- One change to the layout of a table. -/
inductive Edit : List (List Char) → List (List Char) → Prop where
  | insert (front back : List (List Char)) (raw : List Char) (idle : IsIdle raw) :
      Edit (front ++ back) (front ++ raw :: back)
  | delete (front back : List (List Char)) (raw : List Char) (idle : IsIdle raw) :
      Edit (front ++ raw :: back) (front ++ back)
  | extend (front back : List (List Char)) (raw more : List Char) (blank : AllBlank more) :
      Edit (front ++ raw :: back) (front ++ (raw ++ more) :: back)
  | indent (front back : List (List Char)) (rest before after : List Char) (gap : IsGap before) (gap' : IsGap after) :
      Edit (front ++ (before ++ rest) :: back) (front ++ (after ++ rest) :: back)

/-- A fault without the number of its line. -/
def unplaced : Fault → Fault
  | .notAHeader _ text => .notAHeader 0 text
  | .badLineNumber _ number => .badLineNumber 0 number
  | fault => fault

/-- What a reading makes of an index, wherever its lines stand. -/
def outcome (index : NameIndex) (reading : Reading) : Except Fault NameIndex :=
  match reading.fault with
  | some fault => .error (unplaced fault)
  | none => .ok (reading.entries.foldl NameIndex.add index)

/-- Lines that come to the same in every class and at every place of a table. -/
def Alike (lines others : List (List Char)) : Prop :=
  ∀ index owner line line', outcome index (readFrom owner line lines) = outcome index (readFrom owner line' others)

variable {raw other : List Char} {lines others rest : List (List Char)}

theorem unplaced_kind (fault : Fault) : (unplaced fault).kind = fault.kind := by
  fun_cases unplaced fault <;> rfl

theorem unplaced_move (offset : Nat) (fault : Fault) : unplaced (moveFault offset fault) = unplaced fault := by
  fun_cases moveFault offset fault <;> rfl

theorem outcome_move (index : NameIndex) (offset : Nat) (reading : Reading) :
    outcome index (moveReading offset reading) = outcome index reading := by
  rw [outcome, outcome, entries_move, foldl_move]
  change (match reading.fault.map (moveFault offset) with | some fault => _ | none => _) = _
  cases reading.fault with
  | none => rfl
  | some fault => exact congrArg Except.error (unplaced_move offset fault)

theorem outcome_place (index : NameIndex) (owner : Option String) (line line' : Nat) (lines : List (List Char)) :
    outcome index (readFrom owner line lines) = outcome index (readFrom owner line' lines) := by
  rw [← Nat.zero_add line, readFrom_move, outcome_move, ← Nat.zero_add line', readFrom_move, outcome_move]

theorem outcome_followedBy (index : NameIndex) (first second : Reading) :
    outcome index (followedBy first second) = outcome (first.entries.foldl NameIndex.add index) second := by
  rw [outcome, outcome, entries_followedBy, List.foldl_append]
  rfl

theorem Alike.refl (lines : List (List Char)) : Alike lines lines :=
  fun index owner line line' => outcome_place index owner line line' lines

theorem Alike.symm (alike : Alike lines others) : Alike others lines :=
  fun index owner line line' => (alike index owner line' line).symm

theorem Alike.trans {more : List (List Char)} (alike : Alike lines others) (alike' : Alike others more) :
    Alike lines more :=
  fun index owner line line' => (alike index owner line line).trans (alike' index owner line line')

/-- Lines that are alike stay so behind the same lines: these either end both
readings or bring both to the same index and class. -/
theorem Alike.behind (alike : Alike lines others) (front : List (List Char)) : Alike (front ++ lines) (front ++ others) := by
  intro index owner line line'
  rw [outcome_place index owner line' line]
  cases stopped : (readFrom owner line front).fault with
  | some fault => rw [readFrom_append_stopped stopped, readFrom_append_stopped stopped]
  | none =>
    rw [readFrom_append stopped, readFrom_append stopped, outcome_followedBy, outcome_followedBy]
    exact alike _ _ _ _

theorem methodLine?_eq_none_iff :
    methodLine? (strip raw) = none ↔ ∀ form : Form, form.WellFormed → form.text ≠ strip raw := by
  constructor
  · intro unread form valid written
    rw [← written, methodLine?_text valid] at unread
    cases unread
  · intro unwritten
    rw [Option.eq_none_iff_forall_ne_some]
    intro method read
    obtain ⟨form, valid, written, _⟩ := form_of_methodLine? (strip_isStripped raw) read
    exact unwritten form valid written

theorem IsIdle.cases (idle : IsIdle raw) :
    isSilent raw = true ∨ isIndented raw = true ∧ methodLine? (strip raw) = none := by
  cases idle with
  | blank nothing => exact .inl (by simp [isSilent, nothing])
  | comment rest marked => exact .inl (by simp [isSilent, marked])
  | member indented other => exact .inr ⟨indented, methodLine?_eq_none_iff.mpr other⟩

/-- An idle line is no fault, and its entry, if it has one, is a field. -/
theorem IsIdle.effect (idle : IsIdle raw) (owner : Option String) (line : Nat) :
    (∀ fault, lineEffect owner line raw ≠ .fault fault) ∧
      ∀ entry, lineEffect owner line raw = .event (.entry entry) → ∃ field, entry = .field field := by
  have look := idle.cases
  refine ⟨?_, ?_⟩
  · intro fault effect
    cases lineEffect_iff_does.mp effect with
    | stray shown outdented => simp [shown, outdented] at look
    | number shown indented read => simp [shown, read] at look
  · intro entry effect
    cases lineEffect_iff_does.mp effect with
    | header shown outdented => simp [shown, outdented] at look
    | method shown indented read => simp [shown, read] at look
    | field => exact ⟨_, rfl⟩

/-- An idle line changes neither the class of the lines after it nor the index. -/
theorem IsIdle.alike (idle : IsIdle raw) (rest : List (List Char)) : Alike (raw :: rest) rest := by
  intro index owner line line'
  rw [outcome_place index owner line' (line + 1), readFrom]
  obtain ⟨readable, fields⟩ := idle.effect owner line
  cases effect : lineEffect owner line raw with
  | nothing => rfl
  | fault fault => exact absurd effect (readable fault)
  | event event =>
    cases event with
    | notice notice => rfl
    | entry entry =>
      obtain ⟨field, rfl⟩ := fields entry effect
      rfl

/-- Two lines with the same text and, if it counts, the same indentation. -/
structure SameLook (raw other : List Char) : Prop where
  text : strip raw = strip other
  indented : isSilent raw = false → isIndented raw = isIndented other

theorem SameLook.lineEffect_eq (look : SameLook raw other) (owner : Option String) (line : Nat) :
    lineEffect owner line raw = lineEffect owner line other := by
  have silent : isSilent raw = isSilent other := by rw [isSilent, isSilent, look.text]
  unfold lineEffect
  dsimp only
  rw [← silent, ← look.text]
  cases shown : isSilent raw with
  | true => rfl
  | false => rw [look.indented shown]

theorem SameLook.alike (look : SameLook raw other) (rest : List (List Char)) : Alike (raw :: rest) (other :: rest) := by
  intro index owner line line'
  rw [outcome_place index owner line' line, readFrom, readFrom, look.lineEffect_eq]

theorem isIndented_gap {gap : List Char} (valid : IsGap gap) (rest : List Char) : isIndented (gap ++ rest) = true := by
  obtain ⟨c, more, rfl⟩ := List.exists_cons_of_ne_nil valid.some
  simp [isIndented, valid.blank c List.mem_cons_self]

theorem sameLook_extended {more : List Char} (blank : AllBlank more) : SameLook raw (raw ++ more) := by
  refine ⟨(strip_append blank raw).symm, ?_⟩
  intro shown
  cases raw with
  | nil => cases shown
  | cons c raw => rfl

theorem sameLook_indented {before after : List Char} (gap : IsGap before) (gap' : IsGap after) (rest : List Char) :
    SameLook (before ++ rest) (after ++ rest) := by
  refine ⟨?_, ?_⟩
  · rw [strip_gap gap, strip_gap gap']
  · intro _
    rw [isIndented_gap gap, isIndented_gap gap']

theorem Edit.alike (edit : Edit lines others) : Alike lines others := by
  cases edit with
  | insert front back raw idle => exact (idle.alike back).symm.behind front
  | delete front back raw idle => exact (idle.alike back).behind front
  | extend front back raw more blank => exact ((sameLook_extended blank).alike back).behind front
  | indent front back rest before after gap gap' => exact ((sameLook_indented gap gap' rest).alike back).behind front

theorem alike_of_edits (edited : Relation.ReflTransGen Edit lines others) : Alike lines others := by
  induction edited with
  | refl => exact .refl lines
  | tail _ edit ih => exact ih.trans edit.alike

theorem ofLines_outcome (lines : List (List Char)) :
    (ofLines lines).result.mapError unplaced = outcome empty (read lines) := by
  rw [ofLines, ofReading_result, outcome]
  cases (read lines).fault <;> rfl

/-- Changes to the layout of a table, however many, change nothing of what it loads
as: it gives the same index, or fails for the same reason on another line. -/
theorem ofLines_edited (edited : Relation.ReflTransGen Edit lines others) :
    (∃ index, (ofLines lines).result = .ok index ∧ (ofLines others).result = .ok index) ∨
    ∃ fault fault', (ofLines lines).result = .error fault ∧ (ofLines others).result = .error fault' ∧
      fault.kind = fault'.kind ∧ unplaced fault = unplaced fault' := by
  have same : (ofLines lines).result.mapError unplaced = (ofLines others).result.mapError unplaced := by
    rw [ofLines_outcome, ofLines_outcome]
    exact alike_of_edits edited empty none 1 1
  cases loaded : (ofLines lines).result with
  | ok index =>
    cases loaded' : (ofLines others).result with
    | ok index' =>
      rw [loaded, loaded'] at same
      cases same
      exact .inl ⟨index, rfl, rfl⟩
    | error fault' =>
      rw [loaded, loaded'] at same
      cases same
  | error fault =>
    cases loaded' : (ofLines others).result with
    | ok index' =>
      rw [loaded, loaded'] at same
      cases same
    | error fault' =>
      rw [loaded, loaded'] at same
      have cause : unplaced fault = unplaced fault' := Except.error.inj same
      refine .inr ⟨fault, fault', rfl, rfl, ?_, cause⟩
      rw [← unplaced_kind fault, cause, unplaced_kind]

/-- A comment put in front, a header that ends as lines of other systems do, a field
taken away and a method behind other blanks. -/
theorem ofLines_edited_commented :
    let lines := ["a.B -> c:", "  int f -> g", "  1:2:void m() -> d"].map (·.toList)
    let others := ["# top", "a.B -> c:\r\n", "\u3000\t1:2:void m() -> d"].map (·.toList)
    Relation.ReflTransGen Edit lines others ∧
      ∃ index, (ofLines lines).result = .ok index ∧ (ofLines others).result = .ok index := by
  intro lines others
  let top := "# top".toList
  let header := "a.B -> c:".toList
  let field := "  int f -> g".toList
  let method := "1:2:void m() -> d".toList
  have comment : IsIdle top := .comment " top".toList (by decide)
  have idle : IsIdle field := .member (by decide) (methodLine?_eq_none_iff.mp (by decide))
  have commented : Edit lines (top :: lines) := .insert [] lines top comment
  have returned : Edit (top :: lines) [top, header ++ "\r\n".toList, field, "  ".toList ++ method] :=
    .extend [top] [field, "  ".toList ++ method] header "\r\n".toList (by decide)
  have removed : Edit [top, header ++ "\r\n".toList, field, "  ".toList ++ method]
      [top, header ++ "\r\n".toList, "  ".toList ++ method] :=
    .delete [top, header ++ "\r\n".toList] ["  ".toList ++ method] field idle
  have last : [top, header ++ "\r\n".toList] ++ [("\u3000\t".toList ++ method)] = others := by decide
  have shifted : Edit [top, header ++ "\r\n".toList, "  ".toList ++ method] others :=
    last ▸ .indent [top, header ++ "\r\n".toList] [] method "  ".toList "\u3000\t".toList (by decide) (by decide)
  have edited : Relation.ReflTransGen Edit lines others :=
    (((Relation.ReflTransGen.single commented).tail returned).tail removed).tail shifted
  have readable : (read lines).fault = none := by decide
  refine ⟨edited, ?_⟩
  rcases ofLines_edited edited with loaded | ⟨fault, _, failed, _⟩
  · exact loaded
  · exact absurd readable (fails_iff.mp ⟨fault, failed⟩)

end Deobfuscator.Proofs.LayoutEdits
