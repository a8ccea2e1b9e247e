import Deobfuscator.Proofs.Numerals
import Deobfuscator.Proofs.TextCuts
import Deobfuscator.Query

/-! The line that asks for a query, and that reading it gives the query back. What
can be asked for so are words, a line only of a method, and a line of no more
digits than are read. -/

namespace Deobfuscator.Proofs.RequestWords
open Text TextCuts Numerals

theorem digits_blankFree {text : List Char} (valid : IsDigits text) : BlankFree text := by
  intro c inside
  obtain ⟨low, high⟩ := valid.digits c inside
  have low' : 48 ≤ c.toNat := low
  have high' : c.toNat ≤ 57 := high
  grind [isBlank]

theorem numeral_isDigits (n : Nat) : IsDigits (toString n).toList := by
  have some : Nat.toDigits 10 n ≠ [] := Nat.toDigits_ne_nil
  have digits : ∀ c ∈ Nat.toDigits 10 n, c.isDigit = true :=
    fun c inside => Nat.isDigit_of_mem_toDigits (by decide) (by decide) inside
  rw [Nat.toString_eq_repr, Nat.toList_repr, ← isNumeral_iff]
  simpa [isNumeral, some] using digits

theorem decimalValue_numeral (n : Nat) : decimalValue (toString n).toList = n := by
  rw [Nat.toString_eq_repr, Nat.toList_repr, ← numeralValue_eq, numeralValue, ofDigits, List.foldl_map]
  exact Nat.ofDigitChars_ten_toDigits

/-- An integer is written as its digits, behind a dash if it is negative. -/
theorem integer_text (line : Int) :
    ((line.natAbs : Int) = line ∧ (toString line).toList = (toString line.natAbs).toList) ∨
      (-(line.natAbs : Int) = line ∧ (toString line).toList = '-' :: (toString line.natAbs).toList) := by
  cases line with
  | ofNat n => exact .inl ⟨rfl, rfl⟩
  | negSucc n => exact .inr ⟨rfl, String.toList_append⟩

theorem integer_isWord (line : Int) : IsWord (toString line).toList := by
  have digits := numeral_isDigits line.natAbs
  have free := digits_blankFree digits
  rcases integer_text line with ⟨_, text⟩ | ⟨_, text⟩
  · exact text ▸ ⟨digits.some, free⟩
  · exact text ▸ ⟨List.cons_ne_nil _ _, (by decide : BlankFree ['-']).append free⟩

theorem readInteger_digits {text : List Char} (valid : IsDigits text) {n : Nat} (read : readNatural text = .ok n) :
    readInteger text = .ok n := by
  have minus : ¬ ('0' ≤ '-' ∧ '-' ≤ '9') := by decide
  have plus : ¬ ('0' ≤ '+' ∧ '+' ≤ '9') := by decide
  rw [readInteger.eq_def]
  split
  next numeral => exact absurd (valid.digits '-' List.mem_cons_self) minus
  next numeral => exact absurd (valid.digits '+' List.mem_cons_self) plus
  next => rw [read]; rfl

/-- The digits that an integer is written with; its sign does not count. -/
def digitCount (line : Int) : Nat := (toString line.natAbs).length

theorem readInteger_text {line : Int} (short : digitCount line ≤ 4300) :
    readInteger (toString line).toList = .ok line := by
  have digits := numeral_isDigits line.natAbs
  have read : readNatural (toString line.natAbs).toList = .ok line.natAbs :=
    readNatural_ok_iff.mpr ⟨⟨digits, short⟩, decimalValue_numeral line.natAbs⟩
  rcases integer_text line with ⟨value, text⟩ | ⟨value, text⟩
  · rw [text, readInteger_digits digits read, value]
  · rw [text, readInteger, read]
    exact congrArg Except.ok value

/-- The words of the line that asks for a query. -/
def askedWords (query : Query) : List String :=
  query.version :: query.target.className ::
    (query.target.methodName.toList ++ query.target.line.toList.map fun line => toString line)

def request (query : Query) : String := " ".intercalate (askedWords query)

structure IsAskable (query : Query) : Prop where
  version : IsWord query.version.toList
  className : IsWord query.target.className.toList
  methodName : ∀ method ∈ query.target.methodName, IsWord method.toList
  /-- A line is the fourth word, so there is a third. -/
  placed : query.target.line.isSome → query.target.methodName.isSome
  short : ∀ line ∈ query.target.line, digitCount line ≤ 4300

theorem words_intercalate {texts : List String} (valid : ∀ text ∈ texts, IsWord text.toList) :
    words (" ".intercalate texts).toList = texts.map String.toList := by
  rw [String.toList_intercalate]
  induction texts with
  | nil => rfl
  | cons first rest ih =>
    obtain ⟨first_valid, rest_valid⟩ := List.forall_mem_cons.mp valid
    cases rest with
    | nil =>
      have last := words_word_append first_valid (by simp : ∀ c ∈ [].head?, isBlank c = true)
      simpa [words] using last
    | cons next rest =>
      have gap : IsGap " ".toList := by decide
      rw [List.map_cons, List.map_cons, List.intercalate_cons_cons, List.append_assoc,
        words_word_append first_valid (gap.start _), words_gap_append gap.blank, ← List.map_cons, ih rest_valid]

theorem IsAskable.isWord {query : Query} (askable : IsAskable query) : ∀ text ∈ askedWords query, IsWord text.toList := by
  intro text member
  simp only [askedWords, List.mem_cons, List.mem_append, List.mem_map, Option.mem_toList] at member
  rcases member with rfl | rfl | named | ⟨line, _, rfl⟩
  · exact askable.version
  · exact askable.className
  · exact askable.methodName text named
  · exact integer_isWord line

theorem ofWords_asked {query : Query} (askable : IsAskable query) :
    Query.ofWords ((askedWords query).map String.toList) = .ok query := by
  obtain ⟨version, className, methodName, line⟩ := query
  cases line with
  | none => cases methodName <;> simp [askedWords, Query.ofWords, bind, Except.bind, pure, Except.pure]
  | some line =>
    cases methodName with
    | none => cases askable.placed rfl
    | some method =>
      have read : Query.readLine (toString line).toList = .ok line := by
        rw [Query.readLine, readInteger_text (askable.short line rfl)]
      change ((Query.readLine (toString line).toList).map some >>= fun line => _) = _
      rw [read]
      simp [Except.map, bind, Except.bind, pure, Except.pure]

theorem read_request {query : Query} (askable : IsAskable query) : Query.read (request query) = .ok query := by
  rw [Query.read, request, words_intercalate askable.isWord, ofWords_asked askable]

end Deobfuscator.Proofs.RequestWords
