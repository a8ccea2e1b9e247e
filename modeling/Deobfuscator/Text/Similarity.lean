/-!
How alike two texts are. Their longest common piece is matched first, then what stands in front of it and what stands
behind it, in the same way. Two texts are similar when at least six tenths of their characters are matched.
-/

namespace Deobfuscator.Text

/-- The number of characters that two texts start with alike. -/
def commonStart : List Char → List Char → Nat
  | a :: left, b :: right => if a == b then commonStart left right + 1 else 0
  | _, _ => 0

/-- A piece that two texts have in common: where it starts in each of them, and its length. -/
structure CommonPiece where
  left : Nat
  right : Nat
  size : Nat
  deriving DecidableEq, Repr

/-- The longest piece that two texts have in common. Of several, it is the one that starts first in the left text, then
the one that starts first in the right text. -/
def longestCommon (left right : List Char) : CommonPiece :=
  let pieces := (List.range left.length).flatMap fun i =>
    (List.range right.length).map fun j => ⟨i, j, commonStart (left.drop i) (right.drop j)⟩
  pieces.foldl (fun best piece => if best.size < piece.size then piece else best) ⟨0, 0, 0⟩

/-- The number of characters that are matched in each of two texts. -/
def matchedSize (left right : List Char) : Nat :=
  match longestCommon left right with
  | ⟨first, second, size⟩ =>
    if _ : first < left.length then
      if _ : 0 < size then
        matchedSize (left.take first) (right.take second) + size +
          matchedSize (left.drop (first + size)) (right.drop (second + size))
      else 0
    else 0
termination_by left.length
decreasing_by
  · rw [List.length_take]
    omega
  · rw [List.length_drop]
    omega

/-- A name compared with a word: the characters that are matched in each, and the characters of both. -/
structure Likeness where
  name : String
  matched : Nat
  total : Nat
  deriving DecidableEq, Repr

namespace Likeness

/-- A name and a word, if they are similar. No more characters are matched than the shorter one has. -/
def of? (word name : String) : Option Likeness :=
  let total := name.length + word.length
  if 10 * min name.length word.length < 3 * total then none
  else
    let matched := matchedSize name.toList word.toList
    if 10 * matched < 3 * total then none else some ⟨name, matched, total⟩

/-- The larger share of matched characters comes first; of equal shares, the name that is later in the alphabet. -/
def comesFirst (first second : Likeness) : Bool :=
  ((compare (second.matched * first.total) (first.matched * second.total)).then
    (compare second.name first.name)).isLE

end Likeness

/-- The names that are most similar to a word, at most three, in alphabetical order. -/
def closestNames (word : String) (names : List String) : List String :=
  let best := ((names.filterMap (Likeness.of? word)).mergeSort Likeness.comesFirst).take 3
  (best.map (·.name)).mergeSort fun first second => (compare first second).isLE

end Deobfuscator.Text
