import Deobfuscator.Proofs.PlainTemplates

/-! Templates that do not show where a value is kept. A place is written only for an
operation that is bound to a value, alone or among all that a kind holds, so a template
whose placeholders reach nothing of the kind gives a version one path in every memory. -/

namespace Deobfuscator.Proofs.ShownPlaces
open Template PlainTemplates

/-- A value whose form may name the place of a value. -/
def showsPlace : Value → Bool
  | .bound .. | .view _ => true
  | .held offer => offer.member.form == .maker || offer.member.form == .free
  | _ => false

/-- No placeholder of a template shows a place, nor one in the spec of another. -/
def isPlaceless (version : List Char) : Nat → List Char → Bool
  | 0, _ => true
  | depth + 1, template => (scan .literal template).all fun
    | .field field => !(fieldValue version field.name).toOption.any showsPlace && isPlaceless version depth field.spec
    | .literal _ | .fault _ => true

variable {value : Value} {version template : List Char} {depth : Nat}

theorem quotedForm_placeless (placeless : showsPlace value = false) (places places' : Places) :
    value.quotedForm places = value.quotedForm places' := by
  cases value with
  | bound offer subject => cases placeless
  | view kind => cases placeless
  | held offer =>
    simp only [showsPlace, Bool.or_eq_false_iff] at placeless
    simp only [Value.quotedForm, Offer.quotedForm]
    cases form : offer.member.form <;> simp_all
  | _ => rfl

theorem shown_placeless (placeless : showsPlace value = false) (places places' : Places) :
    value.shown places = value.shown places' := by
  have quoted := quotedForm_placeless placeless places places'
  cases value with
  | view kind => cases placeless
  | text content => rfl
  | _ => exact congrArg String.toList quoted

theorem converted_placeless (placeless : showsPlace value = false) (places places' : Places)
    (conversion : Option Char) : converted places value conversion = converted places' value conversion := by
  unfold converted
  rw [shown_placeless placeless places places', quotedForm_placeless placeless places places']

/-- A value is converted to itself, or to a text. -/
theorem converted_shows {places : Places} {conversion : Option Char} {after : Value}
    (placeless : showsPlace value = false) (changed : converted places value conversion = .ok after) :
    showsPlace after = false := by
  unfold converted at changed
  split at changed <;> cases changed
  · exact placeless
  · exact placeless
  · rfl
  · rfl
  · rfl

theorem formatted_placeless (placeless : showsPlace value = false) (places places' : Places) (spec : List Char) :
    formatted places spec value = formatted places' spec value := by
  unfold formatted
  rw [shown_placeless placeless places places']

theorem bind_congr_ok {α β ε : Type} {result : Except ε α} {first second : α → Except ε β}
    (same : ∀ value, result = .ok value → first value = second value) : (result >>= first) = (result >>= second) := by
  cases result with
  | error fault => rfl
  | ok value => exact same value rfl

theorem mapM_congr {α β ε : Type} {first second : α → Except ε β} {items : List α}
    (same : ∀ item ∈ items, first item = second item) : items.mapM first = items.mapM second := by
  induction items with
  | nil => rfl
  | cons item items ih =>
    obtain ⟨head, tail⟩ := List.forall_mem_cons.mp same
    rw [List.mapM_cons, List.mapM_cons, head, ih tail]

theorem writePiece_placeless {piece : Piece} {inner inner' : List Char → Except Template.Fault (List Char)}
    (placeless : ∀ field, piece = .field field →
      (∀ value, fieldValue version field.name = .ok value → showsPlace value = false) ∧
        inner field.spec = inner' field.spec)
    (places places' : Places) : writePiece version places inner piece = writePiece version places' inner' piece := by
  cases piece with
  | literal c => rfl
  | fault fault => rfl
  | field field =>
    obtain ⟨own, spec⟩ := placeless field rfl
    rw [writePiece, writePiece, spec]
    apply bind_congr_ok
    intro value reached
    have still := own value reached
    rw [converted_placeless still places places']
    apply bind_congr_ok
    intro after changed
    have still' := converted_shows still changed
    simp only [formatted_placeless still' places places']

theorem isPlaceless_plain {front back : String} (front_free : BraceFree front) (back_free : BraceFree back)
    (version : List Char) (depth : Nat) : isPlaceless version depth (plain front back).toList := by
  cases depth with
  | zero => rfl
  | succ depth =>
    have own : (fieldValue version "version".toList).toOption.any showsPlace = false := rfl
    have spec : isPlaceless version depth [] := by cases depth <;> rfl
    rw [isPlaceless, scan_plain front_free back_free, List.all_append, List.all_cons]
    dsimp only
    rw [own, spec]
    simp

theorem isPlaceless_field {field : Field} (placeless : isPlaceless version (depth + 1) template)
    (inside : .field field ∈ scan .literal template) :
    (∀ value, fieldValue version field.name = .ok value → showsPlace value = false) ∧
      isPlaceless version depth field.spec := by
  rw [isPlaceless, List.all_eq_true] at placeless
  obtain ⟨own, spec⟩ := Bool.and_eq_true_iff.mp (placeless _ inside)
  refine ⟨?_, spec⟩
  intro value reached
  simpa [reached, Except.toOption] using own

/-- Expansion in any two memories, by the depth of specs in specs. -/
theorem expandWithin_placeless (placeless : isPlaceless version depth template) (memory memory' : Memory) :
    expandWithin version depth memory template = expandWithin version depth memory' template := by
  induction depth generalizing template memory memory' with
  | zero => rfl
  | succ depth ih =>
    have pieces : ∀ item ∈ (scan .literal template).zipIdx,
        writePiece version (memory.places [item.2]) (expandWithin version depth (memory.within item.2)) item.1 =
          writePiece version (memory'.places [item.2]) (expandWithin version depth (memory'.within item.2)) item.1 := by
      intro item member
      apply writePiece_placeless
      intro field same
      have inside : .field field ∈ scan .literal template := same ▸ List.fst_mem_of_mem_zipIdx member
      obtain ⟨own, inner⟩ := isPlaceless_field placeless inside
      exact ⟨own, ih inner _ _⟩
    have written := mapM_congr pieces
    rw [expandWithin, expandWithin]
    exact congrArg (· >>= fun written => Except.ok written.flatten) written

/-- The path of a version is one in all memories, if the template shows no place. -/
theorem pathOf_placeless {archive : Archive} {version : String}
    (placeless : isPlaceless version.toList 2 archive.template.toList) (memory memory' : Memory) :
    archive.pathOf memory version = archive.pathOf memory' version := by
  have expanded : expand memory archive.template version = expand memory' archive.template version :=
    congrArg (Except.map String.ofList) (expandWithin_placeless placeless memory memory')
  rw [Archive.pathOf, Archive.pathOf, expanded]

end Deobfuscator.Proofs.ShownPlaces
