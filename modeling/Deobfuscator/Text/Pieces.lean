/-!
Cutting a text at every occurrence of a separator, and putting it together again.
-/

namespace Deobfuscator.Text

/-- The pieces between the separators of a text. There is one piece more than there are separators, and pieces may be
empty. -/
def pieces (separator : Char) : List Char → List (List Char)
  | [] => [[]]
  | c :: rest =>
    if c == separator then [] :: pieces separator rest
    else (pieces separator rest).modifyHead (c :: ·)

/-- Texts with a separator between them. -/
def joined (separator : Char) (texts : List (List Char)) : List Char := [separator].intercalate texts

theorem pieces_ne_nil (separator : Char) (text : List Char) : pieces separator text ≠ [] := by
  induction text with
  | nil => simp [pieces]
  | cons c rest ih =>
    unfold pieces
    split
    · simp
    · simpa [List.modifyHead_eq_nil_iff] using ih

end Deobfuscator.Text
