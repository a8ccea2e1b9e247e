import Deobfuscator.Mapping.Entry
import Deobfuscator.Mapping.Line
import Deobfuscator.Notice
import Deobfuscator.Text.Lines

/-!
Reading the lines of a mapping table. A reading is the stream of its events, entries and notices, and the fault that
ends it, if one does. Blank lines and lines that start with `#` are passed over; indented lines that are no member are
skipped with a notice; an unindented line that is no header is a fault, and so is a method whose governing line numbers
are not numerals.
-/

namespace Deobfuscator.Mapping

open Text

inductive Event where
  | entry (entry : Entry)
  | notice (notice : Notice)
  deriving DecidableEq, Repr

structure Reading where
  events : List Event
  fault : Option Fault
  deriving DecidableEq, Repr

namespace Reading

def entries (reading : Reading) : List Entry :=
  reading.events.filterMap fun | .entry entry => some entry | .notice _ => none

def notices (reading : Reading) : List Notice :=
  reading.events.filterMap fun | .notice notice => some notice | .entry _ => none

def cons (event : Event) (reading : Reading) : Reading := { reading with events := event :: reading.events }

/-- Ends a reading by a fault, unless it has ended by one already. -/
def endingWith (reading : Reading) (fault : Option Fault) : Reading := { reading with fault := reading.fault.or fault }

/-- What is seen of a stream when its first `count` entries are asked for. Its fault shows only if there are fewer. -/
def takeEvents : Nat → List Event → Option Fault → Reading
  | 0, _, _ => ⟨[], none⟩
  | _ + 1, [], fault => ⟨[], fault⟩
  | count + 1, .entry entry :: rest, fault => cons (.entry entry) (takeEvents count rest fault)
  | count + 1, .notice notice :: rest, fault => cons (.notice notice) (takeEvents (count + 1) rest fault)

def take (count : Nat) (reading : Reading) : Reading := takeEvents count reading.events reading.fault

/-- A fault makes the whole reading fail. -/
def toAttempt (reading : Reading) : Attempt Fault (List Entry) :=
  ⟨reading.notices, match reading.fault with | some fault => .error fault | none => .ok reading.entries⟩

end Reading

inductive Effect where
  | nothing
  | event (event : Event)
  | fault (fault : Fault)
  deriving DecidableEq, Repr

def readLineNumber (line : Nat) (number : List Char) : Except Fault Nat :=
  match readNatural number with
  | .ok n => .ok n
  | .error .malformed => .error (.badLineNumber line (String.ofList number))
  | .error (.tooLong digits) => .error (.numeralTooLong digits)

/-- The range of lines that a method is about; 0 and 0 when it names none. -/
def MethodLine.range (method : MethodLine) (line : Nat) : Except Fault (Nat × Nat) :=
  match method.governing with
  | none => .ok (0, 0)
  -- A fault in the first number counts before one in the last.
  | some (first, last) => do return (← readLineNumber line first, ← readLineNumber line last)

def MethodLine.entry (method : MethodLine) (owner : String) (line : Nat) (range : Nat × Nat) : MethodEntry where
  owner := owner
  returnType := String.ofList method.returnType
  plain := String.ofList method.name
  arguments := String.ofList method.arguments
  obfuscated := String.ofList method.obfuscated
  first := range.1
  last := range.2
  line := line

/-- What a member line of the class `owner` does. -/
def memberEffect (owner : String) (line : Nat) (text : List Char) : Effect :=
  match methodLine? text with
  | some method =>
    match method.range line with
    | .ok range => .event (.entry (.method (method.entry owner line range)))
    | .error fault => .fault fault
  | none =>
    match fieldLine? text with
    | some field =>
      .event (.entry (.field
        ⟨owner, String.ofList field.fieldType, String.ofList field.name, String.ofList field.obfuscated, line⟩))
    | none => .event (.notice (.unrecognised line (String.ofList text)))

/-- What an unindented line does. -/
def headerEffect (line : Nat) (text : List Char) : Effect :=
  match headerLine? text with
  | some header => .event (.entry (.header ⟨String.ofList header.plain, String.ofList header.obfuscated, line⟩))
  | none => .fault (.notAHeader line (String.ofList text))

/-- A line that is passed over in silence. -/
def isSilent (raw : List Char) : Bool := (strip raw).isEmpty || (strip raw).head? == some '#'

/-- A line is indented when its first character is a blank. -/
def isIndented (raw : List Char) : Bool := raw.head?.any isBlank

/-- What a line does after a header of the class `owner`, or in front of the first header. -/
def lineEffect (owner : Option String) (line : Nat) (raw : List Char) : Effect :=
  let text := strip raw
  if isSilent raw then .nothing
  else if !isIndented raw then headerEffect line text
  else match owner with
    -- What a member says is not read here, so its numbers cannot be at fault.
    | none => .event (.notice (.outsideClass line (String.ofList text)))
    | some owner => memberEffect owner line text

/-- The class that the lines after an event belong to. -/
def Event.owner (before : Option String) : Event → Option String
  | .entry (.header found) => some found.plain
  | _ => before

/-- Reads lines in order; the first of them has the number `line`. -/
def readFrom (owner : Option String) (line : Nat) : List (List Char) → Reading
  | [] => ⟨[], none⟩
  | raw :: rest =>
    match lineEffect owner line raw with
    | .nothing => readFrom owner (line + 1) rest
    | .event event => .cons event (readFrom (event.owner owner) (line + 1) rest)
    | .fault fault => ⟨[], some fault⟩

def read (lines : List (List Char)) : Reading := readFrom none 1 lines

/-- Reads a table that is held in memory as one text. -/
def readText (text : String) : Reading := read (textLines text.toList)

end Deobfuscator.Mapping
