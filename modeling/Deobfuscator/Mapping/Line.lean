import Deobfuscator.Text.Blank
import Deobfuscator.Text.Numeral
import Deobfuscator.Text.Pieces

/-!
The three forms of a line of a mapping table, read from its text without the blanks at both ends. Each form has at most
one reading.

- A header is `plain -> obfuscated:`.
- A method is `[first:last:]type name(arguments)[:first[:last]] -> obfuscated`.
- A field is `type name -> obfuscated`.
-/

namespace Deobfuscator.Mapping

open Text

/-- The word between the plain and the obfuscated name. -/
def arrow : List Char := ['-', '>']

structure HeaderLine where
  plain : List Char
  obfuscated : List Char
  deriving DecidableEq, Repr

/-- The name in front of the colon that ends a header. -/
def headerName? (word : List Char) : Option (List Char) :=
  match pieces ':' word with
  | [name, []] => if name.isEmpty then none else some name
  | _ => none

def headerLine? (text : List Char) : Option HeaderLine :=
  match words text with
  | [plain, between, last] => if between = arrow then (headerName? last).map (⟨plain, ·⟩) else none
  | _ => none

structure FieldLine where
  fieldType : List Char
  name : List Char
  obfuscated : List Char
  deriving DecidableEq, Repr

def fieldLine? (text : List Char) : Option FieldLine :=
  match words text with
  | [fieldType, name, between, obfuscated] =>
    if between = arrow ∧ '(' ∉ fieldType ∧ '(' ∉ name then some ⟨fieldType, name, obfuscated⟩ else none
  | _ => none

/-- A method in parts. Its line numbers are still texts. -/
structure MethodLine where
  leading : Option (List Char × List Char)
  returnType : List Char
  name : List Char
  arguments : List Char
  trailing : Option (List Char × Option (List Char))
  obfuscated : List Char
  deriving DecidableEq, Repr

/-- The word in front of the name: the type, or a range and the type. -/
def methodHead? (word : List Char) : Option (Option (List Char × List Char) × List Char) :=
  match pieces ':' word with
  | [returnType] => if returnType.isEmpty || returnType.contains '(' then none else some (none, returnType)
  | [first, last, returnType] =>
    if first.isEmpty || last.isEmpty || returnType.isEmpty || returnType.contains '(' then none
    else some (some (first, last), returnType)
  | _ => none

/-- What stands right after the arguments: nothing, a line, or a range. -/
def methodTail? (word : List Char) : Option (Option (List Char × Option (List Char))) :=
  match pieces ':' word with
  | [[]] => some none
  | [[], first] => if first.isEmpty then none else some (some (first, none))
  | [[], first, last] => if first.isEmpty || last.isEmpty then none else some (some (first, some last))
  | _ => none

def isNameChar (c : Char) : Bool := !isBlank c && c != '('

/-- Reads what follows the arguments of a method. -/
def methodEnd? (text : List Char) : Option (Option (List Char × Option (List Char)) × List Char) :=
  match words (text.dropWhile (!isBlank ·)) with
  | [between, obfuscated] =>
    if between = arrow then (methodTail? (text.takeWhile (!isBlank ·))).map (·, obfuscated) else none
  | _ => none

/-- Reads the name and the arguments of a method, and gives the text after them. -/
def methodName? (text : List Char) : Option (List Char × List Char × List Char) :=
  let name := text.takeWhile isNameChar
  match name, text.dropWhile isNameChar with
  | [], _ => none
  | _, '(' :: inner =>
    match inner.dropWhile (· != ')') with
    | ')' :: rest => some (name, inner.takeWhile (· != ')'), rest)
    | _ => none
  | _, _ => none

def methodLine? (text : List Char) : Option MethodLine := do
  let (leading, returnType) ← methodHead? (text.takeWhile (!isBlank ·))
  let (name, arguments, rest) ← methodName? ((text.dropWhile (!isBlank ·)).dropWhile isBlank)
  let (trailing, obfuscated) ← methodEnd? rest
  return ⟨leading, returnType, name, strip arguments, trailing, obfuscated⟩

/-- The two line numbers that count: a leading range goes before a trailing one, and a single trailing number is
both. -/
def MethodLine.governing (method : MethodLine) : Option (List Char × List Char) :=
  method.leading.or (method.trailing.map fun (first, last) => (first, last.getD first))

end Deobfuscator.Mapping
