import Deobfuscator.CommandLine.PlainConsole
import Deobfuscator.Proofs.TextCuts

/-! What is printed of a line: all of it, if no control sequence stands in it. What a
console takes for one is its own affair; what the plain console drops is shown here. -/

namespace Deobfuscator.Proofs.PrintedText
open Text TextCuts CommandLine

inductive IsSequence : List Char → Prop where
  | written {parameters intermediates : List Char} {final : Char}
      (parametric : ∀ c ∈ parameters, isParameter c = true)
      (between : ∀ c ∈ intermediates, isIntermediate c = true) (ends : isFinal final = true) :
      IsSequence ('\x1b' :: '[' :: (parameters ++ (intermediates ++ [final])))

theorem IsSequence.no_newline {sequence : List Char} (valid : IsSequence sequence) : '\n' ∉ sequence := by
  obtain ⟨parametric, between, ends⟩ := valid
  intro inside
  simp only [List.mem_cons, List.mem_append, List.not_mem_nil, or_false] at inside
  rcases inside with other | other | inside | inside | rfl
  · cases other
  · cases other
  · cases parametric _ inside
  · cases between _ inside
  · cases ends

/-- A sequence of some kind stands somewhere in a text. -/
def Holds (isSequence : List Char → Prop) (text : List Char) : Prop :=
  ∃ sequence, isSequence sequence ∧ sequence <:+: text

/-- What is known of a console that is no terminal: a line without a sequence of some kind
is printed as it is, with a line feed, and from any other line something is left out. -/
structure LeavesOut (isSequence : List Char → Prop) (console : Console) : Prop where
  kept : ∀ line : String, ¬ Holds isSequence line.toList → console.line line = line ++ "\n"
  dropped : ∀ line : String, Holds isSequence line.toList → console.line line ≠ line ++ "\n"

/-- The characters of a sequence are of separate kinds, so each part ends where the next starts. -/
theorem kinds_apart (c : Char) :
    (isIntermediate c = true → isParameter c = false) ∧
      (isFinal c = true → isParameter c = false ∧ isIntermediate c = false) := by
  simp only [isIntermediate, isParameter, isFinal, Bool.and_eq_true, decide_eq_true_eq, Bool.and_eq_false_iff,
    decide_eq_false_iff_not]
  omega

theorem afterSequence?_eq_some_iff {text after : List Char} :
    afterSequence? text = some after ↔ ∃ sequence, IsSequence sequence ∧ sequence ++ after = text := by
  constructor
  · intro found
    unfold afterSequence? at found
    split at found
    next rest =>
      obtain ⟨whole, parametric, _⟩ := cut_parts isParameter rest
      generalize rest.takeWhile isParameter = parameters at whole parametric
      generalize rest.dropWhile isParameter = tail at whole found
      obtain ⟨whole', between, _⟩ := cut_parts isIntermediate tail
      generalize tail.takeWhile isIntermediate = intermediates at whole' between
      split at found
      next final left shape =>
        split at found
        next ends =>
          cases found
          rw [shape] at whole'
          subst whole' whole
          exact ⟨_, .written parametric between ends, by simp⟩
        next => cases found
      next => cases found
    next => cases found
  · rintro ⟨_, @⟨parameters, intermediates, final, parametric, between, ends⟩, rfl⟩
    obtain ⟨notParameter, notIntermediate⟩ := (kinds_apart final).2 ends
    have first : ∀ c ∈ (intermediates ++ final :: after).head?, isParameter c = false := by
      cases intermediates with
      | nil => simpa using notParameter
      | cons c rest => simpa using (kinds_apart c).1 (between c List.mem_cons_self)
    have second : ∀ c ∈ (final :: after).head?, isIntermediate c = false := by simpa using notIntermediate
    have shape : '\x1b' :: '[' :: (parameters ++ (intermediates ++ [final])) ++ after =
        '\x1b' :: '[' :: (parameters ++ (intermediates ++ final :: after)) := by simp
    rw [shape, afterSequence?, (cut_append parametric _ first).2, (cut_append between _ second).2]
    simp [ends]

theorem withoutSequences_found {text after : List Char} (found : afterSequence? text = some after) :
    withoutSequences text = withoutSequences after := by
  cases text with
  | nil => cases found
  | cons c rest =>
    rw [withoutSequences]
    split
    next left found' =>
      cases found.symm.trans found'
      rfl
    next none => cases found.symm.trans none

theorem withoutSequences_kept {c : Char} {rest : List Char} (none : afterSequence? (c :: rest) = none) :
    withoutSequences (c :: rest) = c :: withoutSequences rest := by
  rw [withoutSequences]
  split
  next left found => cases none.symm.trans found
  next => rfl

theorem length_withoutSequences_le (text : List Char) : (withoutSequences text).length ≤ text.length := by
  induction text using withoutSequences.induct with
  | case1 => simp [withoutSequences]
  | case2 c rest after found shorter ih =>
    rw [withoutSequences_found found]
    omega
  | case3 c rest none ih =>
    rw [withoutSequences_kept none]
    exact Nat.succ_le_succ ih

theorem withoutSequences_eq_self_iff {text : List Char} : withoutSequences text = text ↔ ¬ Holds IsSequence text := by
  induction text using withoutSequences.induct with
  | case1 =>
    have none : ¬ Holds IsSequence [] := by
      rintro ⟨sequence, valid, inside⟩
      rw [List.infix_nil.mp inside] at valid
      cases valid
    simp [withoutSequences, none]
  | case2 c rest after found shorter ih =>
    obtain ⟨sequence, valid, whole⟩ := afterSequence?_eq_some_iff.mp found
    have holds : Holds IsSequence (c :: rest) := ⟨sequence, valid, ⟨[], after, whole⟩⟩
    have changed : withoutSequences (c :: rest) ≠ c :: rest := by
      have short := length_withoutSequences_le after
      rw [withoutSequences_found found]
      intro same
      rw [same] at short
      omega
    exact iff_of_false changed (not_not_intro holds)
  | case3 c rest none ih =>
    have later : Holds IsSequence (c :: rest) ↔ Holds IsSequence rest := by
      constructor
      · rintro ⟨sequence, valid, inside⟩
        rcases List.infix_cons_iff.mp inside with ⟨after, whole⟩ | inside
        · rw [afterSequence?_eq_some_iff.mpr ⟨sequence, valid, whole⟩] at none
          cases none
        · exact ⟨sequence, valid, inside⟩
      · rintro ⟨sequence, valid, inside⟩
        exact ⟨sequence, valid, inside.trans (List.suffix_cons c rest).isInfix⟩
    rw [withoutSequences_kept none, later, ← ih, List.cons.injEq, eq_self, true_and]

/-- No sequence reaches over the end of a line. -/
theorem afterSequence?_line (text : List Char) :
    afterSequence? (text ++ ['\n']) = (afterSequence? text).map (· ++ ['\n']) := by
  ext after
  simp only [Option.map_eq_some_iff, afterSequence?_eq_some_iff]
  constructor
  · rintro ⟨sequence, valid, whole⟩
    rcases List.eq_nil_or_concat after with rfl | ⟨left, c, rfl⟩
    · rw [List.append_nil] at whole
      exact absurd (by simp [whole]) valid.no_newline
    · rw [List.concat_eq_append, ← List.append_assoc] at whole
      obtain ⟨whole, same⟩ := List.append_inj' whole rfl
      exact ⟨left, ⟨sequence, valid, whole⟩, by rw [← same, List.concat_eq_append]⟩
  · rintro ⟨left, ⟨sequence, valid, rfl⟩, rfl⟩
    exact ⟨sequence, valid, by rw [List.append_assoc]⟩

theorem withoutSequences_line (text : List Char) :
    withoutSequences (text ++ ['\n']) = withoutSequences text ++ ['\n'] := by
  induction text using withoutSequences.induct with
  | case1 =>
    have none : afterSequence? ['\n'] = none := by decide
    rw [List.nil_append, withoutSequences_kept none]
    simp [withoutSequences]
  | case2 c rest after found shorter ih =>
    have longer : afterSequence? (c :: rest ++ ['\n']) = some (after ++ ['\n']) := by
      rw [afterSequence?_line, found]
      rfl
    rw [withoutSequences_found longer, withoutSequences_found found, ih]
  | case3 c rest none ih =>
    have longer : afterSequence? (c :: (rest ++ ['\n'])) = .none := by
      rw [← List.cons_append, afterSequence?_line, none]
      rfl
    rw [List.cons_append, withoutSequences_kept longer, withoutSequences_kept none, ih, List.cons_append]

theorem printed_line (line : String) : printed (line ++ "\n") = printed line ++ "\n" := by
  rw [printed, printed, String.toList_append]
  change String.ofList (withoutSequences (line.toList ++ ['\n'])) = _
  rw [withoutSequences_line, String.ofList_append]

theorem printed_eq_self_iff {text : String} : printed text = text ↔ ¬ Holds IsSequence text.toList := by
  rw [printed, ← withoutSequences_eq_self_iff, ← String.toList_inj, String.toList_ofList]

theorem plain_leavesOut : LeavesOut IsSequence .plain := by
  have line (text : String) : Console.plain.line text = text ++ "\n" ↔ ¬ Holds IsSequence text.toList := by
    change printed (text ++ "\n") = _ ↔ _
    rw [printed_line, String.append_left_inj, printed_eq_self_iff]
  exact ⟨fun text => (line text).mpr, fun text holds same => (line text).mp same holds⟩

end Deobfuscator.Proofs.PrintedText
