import Deobfuscator.Template.Field
import Deobfuscator.Template.NumberForm
import Deobfuscator.Template.TextForm

/-!
Expansion of a file name template for a version. A template is literal text with placeholders in braces; a doubled brace
is a literal one. `scan` cuts a template into pieces, `expand` writes them from left to right, so the first fault wins.
-/

namespace Deobfuscator.Template

open Text

/-- A placeholder: its name part, its conversion and its spec. -/
structure Field where
  name : List Char
  conversion : Option Char
  spec : List Char
  deriving DecidableEq, Repr

/-- A piece of a template. A fault is the last piece. -/
inductive Piece where
  | literal (c : Char)
  | field (field : Field)
  | fault (fault : Fault)
  deriving DecidableEq, Repr

/-- Where the scanner stands; what it collects is kept last character first. -/
inductive ScanState where
  | literal
  | opened
  | closed
  | inName (name : List Char)
  /-- Inside square brackets of a name, where braces and colons are ordinary. -/
  | inBracket (name : List Char)
  | afterMark (name : List Char)
  | afterConversion (name : List Char) (conversion : Char)
  /-- Inside a spec, below this many braces of its own. -/
  | inSpec (name : List Char) (conversion : Option Char) (depth : Nat) (spec : List Char)

/-- What a template that ends here lacks. -/
def ScanState.atEnd : ScanState → List Piece
  | .literal => []
  | .opened => [.fault .loneOpen]
  | .closed => [.fault .loneClose]
  | .inName _ | .inBracket _ => [.fault .unclosedField]
  | .afterMark _ => [.fault .missingConversion]
  | .afterConversion .. | .inSpec .. => [.fault .unclosedSpec]

/-- The next character of a name. -/
def nameStep (name : List Char) : Char → Option Piece × ScanState
  | '\x7b' => (some (.fault .openInName), .literal)
  | '\x7d' => (some (.field ⟨name.reverse, none, []⟩), .literal)
  | ':' => (none, .inSpec name none 0 [])
  | '!' => (none, .afterMark name)
  | '[' => (none, .inBracket ('[' :: name))
  | c => (none, .inName (c :: name))

/-- The next character of a spec. The brace that closes the placeholder is the one below no brace of the spec. -/
def specStep (name : List Char) (conversion : Option Char) (spec : List Char) : Nat → Char → Option Piece × ScanState
  | depth, '\x7b' => (none, .inSpec name conversion (depth + 1) ('\x7b' :: spec))
  | 0, '\x7d' => (some (.field ⟨name.reverse, conversion, spec.reverse⟩), .literal)
  | depth + 1, '\x7d' => (none, .inSpec name conversion depth ('\x7d' :: spec))
  | depth, c => (none, .inSpec name conversion depth (c :: spec))

/-- The next character: the piece it completes, and where the scanner stands after it. -/
def ScanState.step : ScanState → Char → Option Piece × ScanState
  | .literal, '\x7b' => (none, .opened)
  | .literal, '\x7d' => (none, .closed)
  | .literal, c => (some (.literal c), .literal)
  | .opened, '\x7b' => (some (.literal '\x7b'), .literal)
  | .opened, c => nameStep [] c
  | .closed, '\x7d' => (some (.literal '\x7d'), .literal)
  | .closed, _ => (some (.fault .loneClose), .literal)
  | .inName name, c => nameStep name c
  | .inBracket name, c => (none, if c == ']' then .inName (c :: name) else .inBracket (c :: name))
  | .afterMark name, c => (none, .afterConversion name c)
  | .afterConversion name conversion, '\x7d' => (some (.field ⟨name.reverse, some conversion, []⟩), .literal)
  | .afterConversion name conversion, ':' => (none, .inSpec name (some conversion) 0 [])
  | .afterConversion .., _ => (some (.fault .junkAfterConversion), .literal)
  | .inSpec name conversion depth spec, c => specStep name conversion spec depth c

def scan : ScanState → List Char → List Piece
  | state, [] => state.atEnd
  | state, c :: rest =>
    let (piece, next) := state.step c
    piece.toList ++ scan next rest

/-- A value as a spec writes it. The empty spec leaves it alone; all others are for texts and numbers. -/
def formatted (places : Places) (spec : List Char) (value : Value) : Except Fault (List Char) :=
  if spec.isEmpty then .ok (value.shown places)
  else
    match value with
    | .text content => do (← Spec.read .texts spec).writeText content
    | .number number => do (← Spec.read .numbers spec).writeNumber .numbers number
    | .no => do (← Spec.read .truths spec).writeNumber .truths 0
    | _ => .error (.specRefused value.kindOf)

/-- The value after a conversion: as it is, as text, in quoted form, or in quoted form of ASCII characters only. -/
def converted (places : Places) (value : Value) : Option Char → Except Fault Value
  | none | some '\x00' => .ok value
  | some 's' => .ok (.text (value.shown places))
  | some 'r' => .ok (.text (value.quotedForm places).toList)
  | some 'a' => .ok (.text (inAscii (value.quotedForm places).toList))
  | some other => .error (.unknownConversion other)

/-- A piece as it is written; `inner` writes the spec of a placeholder. -/
def writePiece (version : List Char) (places : Places) (inner : List Char → Except Fault (List Char)) :
    Piece → Except Fault (List Char)
  | .literal c => .ok [c]
  | .fault fault => .error fault
  | .field field => do
    let value ← converted places (← fieldValue version field.name) field.conversion
    -- A spec without braces takes no depth.
    let spec ← if field.spec.contains '\x7b' then inner field.spec else .ok field.spec
    formatted places spec value

/-- Writes a template. A spec with placeholders is expanded first; `depth` bounds how deep such specs nest. -/
def expandWithin (version : List Char) : Nat → Memory → List Char → Except Fault (List Char)
  | 0, _, _ => .error .nestedTooDeep
  | depth + 1, memory, template => do
    let written ← (scan .literal template).zipIdx.mapM fun (piece, position) =>
      writePiece version (memory.places [position]) (expandWithin version depth (memory.within position)) piece
    .ok written.flatten

def expand (memory : Memory) (template version : String) : Except Fault String :=
  (expandWithin version.toList 2 memory template.toList).map String.ofList

end Deobfuscator.Template
