import Deobfuscator.Answer
import Deobfuscator.Proofs.TextCuts
import Deobfuscator.SlashPath
import Mathlib.Data.Nat.Digits.Defs

/-! Texts without line breaks. A quoted form has none, whatever it quotes, and so a
message has none but those of the paths in it. -/

namespace Deobfuscator.Proofs.LineBreaks
open Text TextCuts

def Unbroken (text : List Char) : Prop := ∀ c ∈ text, c ≠ '\n' ∧ c ≠ '\r'

/-- A text that stays on one line. -/
def IsLine (text : String) : Prop := Unbroken text.toList

instance (text : List Char) : Decidable (Unbroken text) := List.decidableBAll _ text

instance (text : String) : Decidable (IsLine text) := inferInstanceAs (Decidable (Unbroken text.toList))

theorem unbroken_append {front back : List Char} : Unbroken (front ++ back) ↔ Unbroken front ∧ Unbroken back :=
  List.forall_mem_append

theorem unbroken_cons {c : Char} {text : List Char} :
    Unbroken (c :: text) ↔ (c ≠ '\n' ∧ c ≠ '\r') ∧ Unbroken text :=
  List.forall_mem_cons

theorem isLine_append {front back : String} : IsLine (front ++ back) ↔ IsLine front ∧ IsLine back := by
  rw [IsLine, String.toList_append]
  exact unbroken_append

theorem isLine_ofList {text : List Char} : IsLine (String.ofList text) ↔ Unbroken text := by
  rw [IsLine, String.toList_ofList]

theorem unbroken_of_free {text : List Char} (free : BlankFree text) : Unbroken text := by
  intro c inside
  have word := free c inside
  refine ⟨?_, ?_⟩
  · rintro rfl
    cases word
  · rintro rfl
    cases word

theorem hexDigit_printed (n : Nat) : hexDigit (n % 16) ≠ '\n' ∧ hexDigit (n % 16) ≠ '\r' := by
  have small : n % 16 < 16 := Nat.mod_lt n (by omega)
  generalize n % 16 = digit at small
  decide +revert

theorem unbroken_hexDigits (width n : Nat) : Unbroken (hexDigits width n) := by
  induction width generalizing n with
  | zero => simp [hexDigits, Unbroken]
  | succ width ih =>
    rw [hexDigits, unbroken_append]
    refine ⟨ih (n / 16), ?_⟩
    rw [unbroken_cons]
    exact ⟨hexDigit_printed n, by decide⟩

theorem unbroken_codePointEscape (c : Char) : Unbroken (codePointEscape c) := by
  rw [codePointEscape]
  split
  next => simp [unbroken_cons, unbroken_hexDigits]
  next =>
    split
    next => simp [unbroken_cons, unbroken_hexDigits]
    next => simp [unbroken_cons, unbroken_hexDigits]

/-- Line breaks are among the characters that are escaped. -/
theorem unbroken_escapeChar {quote c : Char} (printed : quote ≠ '\n' ∧ quote ≠ '\r') :
    Unbroken (escapeChar quote c) := by
  fun_cases escapeChar quote c with
  | case1 own =>
    rw [Bool.or_eq_true, beq_iff_eq, beq_iff_eq] at own
    rcases own with rfl | rfl
    · decide
    · exact unbroken_cons.mpr ⟨by decide, unbroken_cons.mpr ⟨printed, by decide⟩⟩
  | case2 => decide
  | case3 => decide
  | case4 => decide
  | case5 _ _ feed back =>
    rw [beq_iff_eq] at feed back
    exact unbroken_cons.mpr ⟨⟨feed, back⟩, by decide⟩
  | case6 => exact unbroken_codePointEscape c

theorem isLine_quoted (text : String) : IsLine (quoted text) := by
  have printed : quoteFor text.toList ≠ '\n' ∧ quoteFor text.toList ≠ '\r' := by
    rw [quoteFor]
    split <;> decide
  rw [quoted, isLine_ofList, quoteWith, unbroken_cons, unbroken_append, unbroken_cons]
  refine ⟨printed, ?_, printed, by decide⟩
  intro c inside
  obtain ⟨source, _, written⟩ := List.mem_flatMap.mp inside
  exact unbroken_escapeChar printed c written

theorem isLine_natural (n : Nat) : IsLine (toString n) := by
  intro c inside
  have digit : c.isDigit = true := by
    rw [Nat.toString_eq_repr, Nat.toList_repr] at inside
    exact Nat.isDigit_of_mem_toDigits (by omega) (by omega) inside
  refine ⟨?_, ?_⟩
  · rintro rfl
    cases digit
  · rintro rfl
    cases digit

theorem isLine_ofString {text : String} (whole : IsLine text) :
    ∀ part ∈ (SlashPath.ofString text).parts, IsLine part := by
  intro part member
  obtain ⟨piece, kept, rfl⟩ := List.mem_map.mp member
  rw [isLine_ofList]
  intro c inside
  exact whole c (mem_of_mem_pieces (List.mem_filter.mp kept).1 inside).1

theorem isLine_join {left right : SlashPath} (parts : ∀ part ∈ left.parts, IsLine part)
    (parts' : ∀ part ∈ right.parts, IsLine part) : ∀ part ∈ (left.join right).parts, IsLine part := by
  rw [SlashPath.join]
  split
  next => exact List.forall_mem_append.mpr ⟨parts, parts'⟩
  next => exact parts'

theorem isLine_path {path : SlashPath} (parts : ∀ part ∈ path.parts, IsLine part) : IsLine path.toString := by
  have root : IsLine path.root.text := by cases path.root <;> decide
  have named : Unbroken (joined '/' (path.parts.map String.toList)) := by
    intro c inside
    rcases mem_joined inside with rfl | ⟨text, member, inside⟩
    · decide
    · obtain ⟨part, kept, rfl⟩ := List.mem_map.mp member
      exact parts part kept c inside
  rw [SlashPath.toString]
  split
  next => decide
  next => exact isLine_append.mpr ⟨root, isLine_ofList.mpr named⟩

theorem isLine_refusal (refusal : Refusal) : IsLine refusal.text := by
  have unbroken := refusal.unbroken
  simp only [List.all_eq_true, Bool.and_eq_true, bne_iff_ne] at unbroken
  exact unbroken

theorem isLine_reason (reason : Utf8.Reason) : IsLine reason.text := by
  cases reason <;> decide +kernel

theorem isLine_spanned (fault : Utf8.Fault) : IsLine fault.message := by
  have lead : IsLine (String.ofList (hexDigits 2 fault.lead.toNat)) := isLine_ofList.mpr (unbroken_hexDigits _ _)
  unfold Utf8.Fault.message
  split
  next =>
    simp only [isLine_append, isLine_natural, isLine_reason, lead]
    decide +kernel
  next =>
    simp only [isLine_append, isLine_natural, isLine_reason]
    decide +kernel

theorem isLine_tooLong (digits : Nat) : IsLine (tooLongMessage digits) := by
  unfold tooLongMessage
  simp only [isLine_append, isLine_natural]
  decide +kernel

/-- The texts that a message holds as they are. -/
def bareTexts : Fault → List String
  | .fileNotFound path | .unreadable path _ | .undecodable path _ => [path]
  | .template fault => [fault.message]
  | _ => []

theorem isLine_message {fault : Fault} (bare : ∀ text ∈ bareTexts fault, IsLine text) : IsLine fault.message := by
  -- Beside the paths there are quoted forms, numbers and fixed texts.
  unfold Fault.message
  cases fault with
  | fileNotFound path | unreadable path | undecodable path =>
    have path := bare path List.mem_cons_self
    simp only [isLine_append, isLine_refusal, isLine_spanned, path]
    decide +kernel
  | template fault => exact bare fault.message List.mem_cons_self
  | badCapacity capacity =>
    have written : IsLine (toString capacity) := by
      cases capacity with
      | ofNat n => exact isLine_natural n
      | negSucc n => exact isLine_append.mpr ⟨by decide, isLine_natural n.succ⟩
    simp only [isLine_append, written]
    decide +kernel
  | tooFewWords | missingNumeral | embeddedNull | noCount => decide +kernel
  | numeralTooLong digits => exact isLine_tooLong digits
  | _ =>
    simp only [isLine_append, isLine_quoted, isLine_natural, isLine_refusal]
    decide +kernel

/-- A failure with a message on one line is reported on one line. -/
theorem isLine_response {fault : Fault} (bare : ∀ text ∈ bareTexts fault, IsLine text) :
    IsLine fault.failure.response := by
  have label : IsLine fault.kind.label := by cases fault.kind <;> decide
  have message : IsLine fault.failure.message := by
    rw [Failure.message]
    split
    next => exact label
    next => exact isLine_message bare
  exact isLine_append.mpr ⟨by decide, message⟩

end Deobfuscator.Proofs.LineBreaks
