/-!
Blanks: the characters that separate words. `strip` drops them at both ends of a text, `words` cuts a text into its
maximal blank-free pieces.
-/

namespace Deobfuscator.Text

/-- A blank is a white-space character of the Unicode standard, or one of the four ASCII information separators. -/
def isBlank (c : Char) : Bool :=
  let code := c.toNat
  (0x09 ≤ code && code ≤ 0x0D) || (0x1C ≤ code && code ≤ 0x20) || code == 0x85 || code == 0xA0 || code == 0x1680 ||
    (0x2000 ≤ code && code ≤ 0x200A) || code == 0x2028 || code == 0x2029 || code == 0x202F || code == 0x205F ||
    code == 0x3000

/-- Drops the longest suffix whose characters all satisfy `drop`. -/
def trimEnd (drop : Char → Bool) (text : List Char) : List Char := (text.reverse.dropWhile drop).reverse

def strip (text : List Char) : List Char := trimEnd isBlank (text.dropWhile isBlank)

/-- The maximal blank-free pieces of a text, in order. None is empty. -/
def words : List Char → List (List Char)
  | [] => []
  | c :: rest =>
    if isBlank c then words rest
    -- The word ends here, or is in front of the rest of it.
    else if rest.head?.all isBlank then [c] :: words rest
    else (words rest).modifyHead (c :: ·)

theorem words_cons_blank {c : Char} (blank : isBlank c = true) (rest : List Char) : words (c :: rest) = words rest := by
  simp [words, blank]

end Deobfuscator.Text
