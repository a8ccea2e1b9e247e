/-!
Control sequences of a terminal, and texts without them. A control sequence is an escape character and an opening
bracket, followed by parameters, by intermediate characters and by one final character.
-/

namespace Deobfuscator.Text

def isParameter (c : Char) : Bool := 0x30 ≤ c.toNat && c.toNat ≤ 0x3F

def isIntermediate (c : Char) : Bool := 0x20 ≤ c.toNat && c.toNat ≤ 0x2F

def isFinal (c : Char) : Bool := 0x40 ≤ c.toNat && c.toNat ≤ 0x7E

/-- What follows the control sequence that a text starts with. -/
def afterSequence? : List Char → Option (List Char)
  | '\x1b' :: '[' :: rest =>
    match (rest.dropWhile isParameter).dropWhile isIntermediate with
    | final :: after => if isFinal final then some after else none
    | [] => none
  | _ => none

theorem length_lt_of_afterSequence? {text after : List Char} (found : afterSequence? text = some after) :
    after.length < text.length := by
  unfold afterSequence? at found
  split at found
  next rest =>
    have inner := (List.dropWhile_suffix isParameter (l := rest)).length_le
    have outer := (List.dropWhile_suffix isIntermediate (l := rest.dropWhile isParameter)).length_le
    split at found
    next final tail shape =>
      rw [shape, List.length_cons] at outer
      split at found
      · cases found
        simp only [List.length_cons]
        omega
      · cases found
    next => cases found
  next => cases found

/-- A text without its control sequences. An escape character that starts none stays. -/
def withoutSequences (text : List Char) : List Char :=
  match text with
  | [] => []
  | c :: rest =>
    match found : afterSequence? (c :: rest) with
    | some after =>
      have := length_lt_of_afterSequence? found
      withoutSequences after
    | none => c :: withoutSequences rest
termination_by text.length
decreasing_by
  · assumption
  · exact Nat.lt_succ_self _

/-- A text as it is printed where no terminal is. -/
def printed (text : String) : String := String.ofList (withoutSequences text.toList)

end Deobfuscator.Text
