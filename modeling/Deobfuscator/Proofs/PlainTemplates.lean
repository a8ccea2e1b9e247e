import Deobfuscator.Archive
import Mathlib.Data.String.Basic

/-! Templates that hold nothing but the placeholder of the version between two
texts without braces. Their expansion puts the version in its place, whatever it
holds and wherever it is kept, and never fails. -/

namespace Deobfuscator.Proofs.PlainTemplates
open Text Template

def BraceFree (text : String) : Prop := ∀ c ∈ text.toList, c ≠ '\x7b' ∧ c ≠ '\x7d'

instance (text : String) : Decidable (BraceFree text) := List.decidableBAll _ text.toList

def placeholder : String := "\x7bversion\x7d"

def plain (front back : String) : String := front ++ placeholder ++ back

theorem scan_literals {text : List Char} (free : ∀ c ∈ text, c ≠ '\x7b' ∧ c ≠ '\x7d') (rest : List Char) :
    scan .literal (text ++ rest) = text.map .literal ++ scan .literal rest := by
  induction text with
  | nil => rfl
  | cons c text ih =>
    have other := free c List.mem_cons_self
    have step : ScanState.step .literal c = (some (.literal c), .literal) := by
      unfold ScanState.step
      split <;> simp_all
    rw [List.cons_append, scan, step]
    dsimp only
    rw [ih fun c inside => free c (List.mem_cons_of_mem _ inside)]
    rfl

theorem scan_placeholder (rest : List Char) :
    scan .literal (placeholder.toList ++ rest) = .field ⟨"version".toList, none, []⟩ :: scan .literal rest := rfl

theorem scan_plain {front back : String} (front_free : BraceFree front) (back_free : BraceFree back) :
    scan .literal (plain front back).toList =
      front.toList.map .literal ++ .field ⟨"version".toList, none, []⟩ :: back.toList.map .literal := by
  have last := scan_literals back_free []
  rw [List.append_nil] at last
  rw [plain, String.toList_append, String.toList_append, List.append_assoc, scan_literals front_free, scan_placeholder,
    last]
  simp [scan, ScanState.atEnd]

theorem mapM_literals {write : Piece × Nat → Except Template.Fault (List Char)}
    (literal : ∀ c position, write (.literal c, position) = .ok [c]) (text : List Char) (start : Nat) :
    ((text.map Piece.literal).zipIdx start).mapM write = .ok (text.map fun c => [c]) := by
  induction text generalizing start with
  | nil => rfl
  | cons c text ih =>
    rw [List.map_cons, List.zipIdx_cons, List.mapM_cons, literal, ih]
    rfl

theorem expand_plain {front back : String} (front_free : BraceFree front) (back_free : BraceFree back)
    (memory : Memory) (version : String) :
    expand memory (plain front back) version = .ok (front ++ version ++ back) := by
  have single (text : List Char) : (text.map fun c => [c]).flatten = text := by
    rw [← List.flatMap_def, List.flatMap_singleton']
  have written : expandWithin version.toList 2 memory (plain front back).toList =
      .ok (front.toList.map (fun c => [c]) ++ version.toList :: back.toList.map fun c => [c]).flatten := by
    rw [expandWithin, scan_plain front_free back_free, List.zipIdx_append, List.zipIdx_cons, List.mapM_append,
      List.mapM_cons, mapM_literals (fun _ _ => rfl), mapM_literals (fun _ _ => rfl)]
    rfl
  rw [expand, written, List.flatten_append, List.flatten_cons, single, single]
  simp [Except.map, String.append_assoc]

/-- A version that is admitted has a path; any other is refused. -/
theorem pathOf_plain {front back : String} (front_free : BraceFree front) (back_free : BraceFree back)
    (directory : String) (memory : Memory) (version : String) :
    Archive.pathOf ⟨directory, plain front back⟩ memory version =
      if Archive.admits version then
        .ok ((SlashPath.ofString directory).join (SlashPath.ofString (front ++ version ++ back)))
      else .error (.invalidVersion version) := by
  rw [Archive.pathOf, expand_plain front_free back_free]
  by_cases admitted : Archive.admits version = true <;> simp [admitted]

theorem pathOf_plain_fault {front back directory version : String} (front_free : BraceFree front)
    (back_free : BraceFree back) {memory : Memory} {fault : Fault}
    (unlocated : Archive.pathOf ⟨directory, plain front back⟩ memory version = .error fault) :
    fault = .invalidVersion version := by
  rw [pathOf_plain front_free back_free] at unlocated
  split at unlocated
  next => cases unlocated
  next => exact (Except.error.inj unlocated).symm

end Deobfuscator.Proofs.PlainTemplates
