import Deobfuscator.Template.Index

/-!
The spec of a placeholder: how wide the value is written, how much of it, and on which side it is padded. A spec is
`[[fill]align][sign][z][#][0][width][,][_][.precision][code]`. What it leaves open depends on the kind of the value.
-/

namespace Deobfuscator.Template

structure Spec where
  fill : Char
  align : Char
  sign : Option Char
  negativeZero : Bool
  alternate : Bool
  width : Nat
  separator : Option Char
  precision : Option Nat
  /-- In which way the value is written. -/
  code : Char
  deriving DecidableEq, Repr

def isAlign (c : Char) : Bool := c == '<' || c == '>' || c == '=' || c == '^'

/-- The fill and the alignment of a spec, if they are given. -/
def takeAlign : List Char → Option Char × Option Char × List Char
  | fill :: align :: rest =>
    if isAlign align then (some fill, some align, rest)
    else if isAlign fill then (none, some fill, align :: rest)
    else (none, none, fill :: align :: rest)
  | [align] => if isAlign align then (none, some align, []) else (none, none, [align])
  | [] => (none, none, [])

/-- The first character, if it satisfies `wanted`. -/
def takeIf (wanted : Char → Bool) : List Char → Option Char × List Char
  | c :: rest => if wanted c then (some c, rest) else (none, c :: rest)
  | [] => (none, [])

/-- The separator of thousands: one comma or one underscore. -/
def takeSeparator (text : List Char) : Except Fault (Option Char × List Char) :=
  let (comma, rest) := takeIf (· == ',') text
  let (underscore, rest) := takeIf (· == '_') rest
  if underscore.isSome && (comma.isSome || rest.head? == some ',') then .error .twoSeparators
  else .ok (comma.or underscore, rest)

/-- The precision: a number after a point. -/
def takePrecision (text : List Char) : Except Fault (Option Nat × List Char) :=
  match text with
  | '.' :: rest => do
    match ← takeNumber rest with
    | (none, _) => .error .missingPrecision
    | (some precision, rest) => .ok (some precision, rest)
  | _ => .ok (none, text)

/-- The codes that a separator of thousands goes with. -/
def admitsSeparator (separator code : Char) : Bool :=
  ['d', 'e', 'f', 'g', 'E', 'G', '%', 'F', '\x00'].contains code ||
    (separator == '_' && ['b', 'o', 'x', 'X'].contains code)

/-- Texts are aligned on the left. -/
def alignOf (kind : Kind) : Char := if kind == .texts then '<' else '>'

/-- Texts are written as such, numbers in decimal. -/
def codeOf (kind : Kind) : Char := if kind == .texts then 's' else 'd'

/-- Reads a spec for a value of some kind. A zero in front of the width fills; if no alignment is given, it fills a
number after its sign. -/
def Spec.read (kind : Kind) (text : List Char) : Except Fault Spec := do
  let (fill, align, rest) := takeAlign text
  let (sign, rest) := takeIf (fun c => c == ' ' || c == '+' || c == '-') rest
  let (negativeZero, rest) := takeIf (· == 'z') rest
  let (alternate, rest) := takeIf (· == '#') rest
  let (zero, rest) := takeIf (fun c => fill.isNone && c == '0') rest
  let (width, rest) ← takeNumber rest
  let (separator, rest) ← takeSeparator rest
  let (precision, rest) ← takePrecision rest
  let code ← match rest with
    | [] => .ok (codeOf kind)
    | [code] => .ok code
    | _ => .error (.invalidSpec (String.ofList text) kind)
  if let some mark := separator then
    if !admitsSeparator mark code then .error (.separatorRefused mark code)
  let standard := if zero.isSome && alignOf kind == '>' then '=' else alignOf kind
  .ok ⟨(fill.or zero).getD ' ', align.getD standard, sign, negativeZero.isSome, alternate.isSome, width.getD 0,
    separator, precision, code⟩

/-- The most characters that are written at a time. -/
def longestText : Nat := 0x1000000

/-- How many fills stand before a text, inside it, and after it, if so many are missing. Of an odd number of fills
around a centred text, the larger part is on the right. -/
def Spec.padding (spec : Spec) (missing : Nat) : Nat × Nat × Nat :=
  if spec.align == '>' then (missing, 0, 0)
  else if spec.align == '^' then (missing / 2, 0, missing - missing / 2)
  else if spec.align == '=' then (0, missing, 0)
  else (0, 0, missing)

/-- Pads a text to the width of a spec. Fills inside of it come after the part in front. -/
def Spec.pad (spec : Spec) (front rest : List Char) : List Char :=
  let (before, inside, after) := spec.padding (spec.width - (front.length + rest.length))
  let fills := fun count => List.replicate count spec.fill
  fills before ++ front ++ fills inside ++ rest ++ fills after

end Deobfuscator.Template
