import Deobfuscator.Mapping.Reading
import Deobfuscator.Text.Utf8

/-!
Reading a mapping table from the bytes of a file. The bytes come in chunks of `chunkSize`; a byte order mark in front of
them is dropped. Lines are read as soon as the characters that end them are decoded, so a malformed chunk stops the
reading in front of every line that ends in it, and a carriage return at the end of a chunk ends its line only when the
next character shows that no line feed follows.
-/

namespace Deobfuscator.Mapping

open Text

def chunkSize : Nat := 8192

def byteOrderMark : List UInt8 := [0xEF, 0xBB, 0xBF]

/-- A line in progress: its characters so far, last first, and whether a carriage return has ended it. -/
structure OpenLine where
  text : List Char
  returned : Bool
  deriving DecidableEq, Repr

namespace OpenLine

def empty : OpenLine := ⟨[], false⟩

/-- The next character: the line it completes, and the line in progress after it. -/
def step (line : OpenLine) (c : Char) : Option (List Char) × OpenLine :=
  if line.returned then
    (some line.text.reverse, if c == '\n' then empty else if c == '\r' then ⟨[], true⟩ else ⟨[c], false⟩)
  else if c == '\n' then (some line.text.reverse, empty)
  else if c == '\r' then (none, ⟨line.text, true⟩)
  else (none, ⟨c :: line.text, false⟩)

/-- The lines that characters complete, and the line in progress after them. -/
def feed : OpenLine → List Char → List (List Char) × OpenLine
  | line, [] => ([], line)
  | line, c :: rest =>
    let (complete, next) := line.step c
    let (more, last) := next.feed rest
    (complete.toList ++ more, last)

/-- The line that the end of the file completes. -/
def finish (line : OpenLine) : List (List Char) :=
  if line.returned || !line.text.isEmpty then [line.text.reverse] else []

end OpenLine

/-- Cuts bytes into chunks, at most `fuel` of them; as many as there are bytes are always enough. -/
def chunksOf : Nat → List UInt8 → List (List UInt8)
  | 0, _ => []
  | fuel + 1, bytes => if bytes.isEmpty then [] else bytes.take chunkSize :: chunksOf fuel (bytes.drop chunkSize)

/-- The chunks of a file. The mark is dropped from the first of them; a file that ends inside the mark is empty. -/
def chunks (bytes : List UInt8) : List (List UInt8) :=
  if bytes = byteOrderMark.take 1 ∨ bytes = byteOrderMark.take 2 then []
  else match chunksOf bytes.length bytes with
    | [] => []
    | first :: rest => (if byteOrderMark.isPrefixOf first then first.drop byteOrderMark.length else first) :: rest

/-- The lines of a file that can be read, and the malformed span that stops the reading, if there is one. The last chunk
ends the file if it is `whole`; otherwise the line in progress is lost. -/
def readChunks (whole : Bool) :
    Option Utf8.Pending → OpenLine → List (List UInt8) → List (List Char) × Option Utf8.Fault
  | pending, line, [] =>
    if !whole then ([], none)
    else match Utf8.strictly 0 (Utf8.finish pending) with
      | .error fault => ([], some fault)
      | .ok _ => (line.finish, none)
  | pending, line, chunk :: rest =>
    -- A chunk is decoded as a whole before its first line is given.
    let (items, next) := Utf8.scan pending chunk
    match Utf8.strictly 0 items with
    | .error fault => ([], some fault)
    | .ok text =>
      let (lines, last) := line.feed text
      let (more, fault) := readChunks whole next last rest
      (lines ++ more, fault)

def byteLines (bytes : List UInt8) : List (List Char) × Option Utf8.Fault := readChunks true none .empty (chunks bytes)

def readBytes (path : String) (bytes : List UInt8) : Reading :=
  let (lines, fault) := byteLines bytes
  (read lines).endingWith (fault.map (.undecodable path))

/-- The lines of the bytes of a file that cannot be read on after them. -/
def brokenLines (bytes : List UInt8) : List (List Char) × Option Utf8.Fault := readChunks false none .empty (chunks bytes)

/-- Reads the bytes of the file at a path up to where it cannot be read on. -/
def readBroken (path : String) (bytes : List UInt8) (refusal : Refusal) : Reading :=
  let (lines, fault) := brokenLines bytes
  (read lines).endingWith (some (fault.elim (.readingFailed refusal) (.undecodable path)))

def readPath (files : FileSystem) (path : String) : Reading :=
  match files.find path with
  | .file bytes => readBytes path bytes
  | .broken bytes refusal => readBroken path bytes refusal
  | .closed refusal | .refused refusal => ⟨[], some (.unreadable path refusal)⟩
  | .embeddedNull => ⟨[], some .embeddedNull⟩

end Deobfuscator.Mapping
