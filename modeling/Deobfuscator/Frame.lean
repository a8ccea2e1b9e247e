/-!
The bytes of a connection, cut into frames: one for each line, up to the first line that is longer than the limit.
-/

namespace Deobfuscator

inductive Frame where
  /-- A line within the limit, without the bytes that end it. -/
  | request (line : List UInt8)
  /-- A line beyond the limit, with so many bytes left after it. No frame follows. -/
  | overlong (unread : Nat)
  /-- Nothing is read of so many bytes. No frame follows. -/
  | untouched (unread : Nat)
  /-- The room for a line is no count of bytes, so reading fails and leaves so many of them. No frame follows. -/
  | uncounted (unread : Nat)
  /-- A line beyond the limit has no end, and reading on fails. -/
  | endless
  deriving DecidableEq, Repr

namespace Frame

def lineFeed : UInt8 := 0x0A

def carriageReturn : UInt8 := 0x0D

/-- A line without the line feeds and carriage returns at its end. -/
def content (line : List UInt8) : List UInt8 :=
  (line.reverse.dropWhile fun byte => byte == lineFeed || byte == carriageReturn).reverse

/-- A line feed ends the line. -/
def isEnded (line : List UInt8) : Bool := line.getLast? == some lineFeed

/-- A line is overlong when its content exceeds the limit, or when the limit is exceeded and no line feed has come. -/
def isOverlong (limit : Nat) (line : List UInt8) : Bool :=
  limit < (content line).length || (!isEnded line && limit < line.length)

/-- The line that bytes start with, and the line feed that ends it. -/
def firstLine (bytes : List UInt8) : List UInt8 :=
  bytes.takeWhile (· != lineFeed) ++ (bytes.dropWhile (· != lineFeed)).take 1

/-- The bytes read of a line when at most `size` are asked for. -/
def readLine (size : Nat) (bytes : List UInt8) : List UInt8 := firstLine (bytes.take size)

theorem length_firstLine_le (bytes : List UInt8) : (firstLine bytes).length ≤ bytes.length := by
  have parts := congrArg List.length (List.takeWhile_append_dropWhile (p := (· != lineFeed)) (l := bytes))
  simp only [List.length_append] at parts
  simp only [firstLine, List.length_append, List.length_take]
  omega

/-- A read that gives any bytes leaves fewer. -/
theorem length_drop_readLine {size : Nat} {bytes : List UInt8} (some : ¬ (readLine size bytes).isEmpty) :
    (bytes.drop (readLine size bytes).length).length < bytes.length := by
  have bounded := length_firstLine_le (bytes.take size)
  have positive : 0 < (readLine size bytes).length := by simpa [List.length_pos_iff] using some
  simp only [readLine, List.length_take, List.length_drop] at *
  omega

/-- What follows a line of which some bytes have been read. The others are read too, at most `size` at a time, up to a
line feed or until nothing is read. -/
def discardLine (size : Nat) (bytes : List UInt8) : List UInt8 :=
  let chunk := readLine size bytes
  let rest := bytes.drop chunk.length
  if _ : chunk.isEmpty || isEnded chunk then rest else discardLine size rest
termination_by bytes.length
decreasing_by
  rename_i more
  exact length_drop_readLine fun empty => more (Bool.or_eq_true_iff.mpr (.inl empty))

/-- The frames of bytes. There is room for a line of full length and two bytes that end it. -/
def cut (limit : Nat) (bytes : List UInt8) : List Frame :=
  let line := readLine (limit + 2) bytes
  let rest := bytes.drop line.length
  if _ : line.isEmpty then []
  else if isOverlong limit line then [.overlong (if isEnded line then rest else discardLine limit rest).length]
  else .request (content line) :: cut limit rest
termination_by bytes.length
decreasing_by exact length_drop_readLine ‹_›

/-- What follows the line that bytes start with. -/
def afterLine (bytes : List UInt8) : List UInt8 := bytes.drop (firstLine bytes).length

/-- A number that a count of bytes can be; counts are kept in words of 64 bits with a sign. -/
def isCount (n : Int) : Bool := -0x8000000000000000 ≤ n && n ≤ 0x7FFFFFFFFFFFFFFF

/-- The frames of all bytes. No line keeps a negative limit, so the first one is overlong; the limit of minus two leaves
no room to read it. -/
def ofBytes (limit : Int) (bytes : List UInt8) : List Frame :=
  if !isCount (limit + 2) then [.uncounted bytes.length]
  else if bytes.isEmpty then []
  -- The first read finds an end, or the rest of the line is asked for by a limit that is no count.
  else if !isCount limit && !bytes.contains lineFeed then [.endless]
  else
    match limit with
    | .ofNat limit => cut limit bytes
    | .negSucc 1 => [.untouched bytes.length]
    | .negSucc _ => [.overlong (afterLine bytes).length]

end Frame

end Deobfuscator
