import Deobfuscator.Text.CellWidth

/-!
Clusters: the stretches of a text that are drawn as one. A character that takes no cell belongs to the cluster in front
of it, and a joiner draws in the character behind it as well.
-/

namespace Deobfuscator.Text

structure Cluster where
  content : List Char
  cells : Nat
  deriving DecidableEq, Repr

/-- A cluster with further characters that take no cells of their own. -/
def Cluster.extend (cluster : Cluster) (more : List Char) : Cluster :=
  { cluster with content := cluster.content ++ more }

/-- The clusters of a text after the cluster in progress; `last` is the character that a variation selector can still
widen. -/
def clustersAfter : Cluster → Option Char → List Char → List Cluster
  | cluster, _, [] => [cluster]
  | cluster, _, ['\u200d'] => [cluster.extend ['\u200d']]
  | cluster, last, '\u200d' :: next :: rest => clustersAfter (cluster.extend ['\u200d', next]) last rest
  | cluster, last, '\ufe0f' :: rest =>
    let wider := if last.any (isWithin pictographRanges) then 1 else 0
    clustersAfter ⟨cluster.content ++ ['\ufe0f'], cluster.cells + wider⟩ none rest
  | cluster, last, c :: rest =>
    if charWidth c == 0 then clustersAfter (cluster.extend [c]) last rest
    else cluster :: clustersAfter ⟨[c], charWidth c⟩ (some c) rest

def clusters : List Char → List Cluster
  | [] => []
  | c :: rest => clustersAfter ⟨[c], charWidth c⟩ (if charWidth c == 0 then none else some c) rest

end Deobfuscator.Text
