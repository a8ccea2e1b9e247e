/-!
What the library asks of a file system: what is found under a path.
-/

namespace Deobfuscator

/-- Why a path cannot be opened: the number of the error and its text, which is one line. -/
structure Refusal where
  number : Nat
  text : String
  unbroken : text.toList.all (fun c => c != '\n' && c != '\r') = true := by rfl
  deriving DecidableEq, Repr

namespace Refusal

def missing : Refusal where
  number := 2
  text := "No such file or directory"

/-- A directory on the way may not be searched, or the file may not be read. -/
def denied : Refusal where
  number := 13
  text := "Permission denied"

/-- A component, or a slash at the end, comes after a plain file. -/
def notDirectory : Refusal where
  number := 20
  text := "Not a directory"

def isDirectory : Refusal where
  number := 21
  text := "Is a directory"

/-- A component, or the whole path, is longer than file systems allow. -/
def nameTooLong : Refusal where
  number := 36
  text := "File name too long"

/-- The numbers that say that there is no plain file: nothing is there, a plain file is on the way, there is a
directory, a descriptor is bad, or links on the way lead to each other without end. -/
def absences : List Nat := [2, 20, 21, 9, 40]

/-- A refusal that says that there is no plain file. Any other leaves this open. -/
def isAbsence (refusal : Refusal) : Bool := absences.contains refusal.number

end Refusal

/-- What is found under a path. -/
inductive Lookup where
  | file (bytes : List UInt8)
  /-- A plain file that cannot be opened. -/
  | closed (refusal : Refusal)
  /-- A plain file of which only these bytes can be read. -/
  | broken (bytes : List UInt8) (refusal : Refusal)
  /-- There is no plain file, or there is no telling. -/
  | refused (refusal : Refusal)
  /-- The path holds the character NUL, which no file system admits. -/
  | embeddedNull
  deriving DecidableEq, Repr

/-- A file system that does not change while it is read. -/
structure FileSystem where
  find : String → Lookup

namespace FileSystem

def nothing : FileSystem := ⟨fun _ => .refused .missing⟩

/-- A file system that has only what is found under one path. -/
def single (path : String) (found : Lookup) : FileSystem :=
  ⟨fun other => if other = path then found else .refused .missing⟩

end FileSystem

end Deobfuscator
