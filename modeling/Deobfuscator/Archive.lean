import Deobfuscator.NameIndex.Source
import Deobfuscator.SlashPath
import Deobfuscator.Template.Expansion

/-!
The archive of mapping files: one directory, in which a template names the file of a version.
-/

namespace Deobfuscator

open Mapping
open Template (Memory)

structure Archive where
  directory : String
  template : String
  deriving DecidableEq, Repr

namespace Archive

/-- The archive that is used when nothing else is asked for. -/
def standard : Archive := ⟨"/maps", "aerofs-\x7bversion\x7d-public.map"⟩

/-- A version is admitted as part of a file name when it names neither a directory nor nothing. -/
def admits (version : String) : Bool :=
  !version.isEmpty && version != "." && version != ".." && !version.toList.contains '/'

/-- The path of a version. It depends on the memory if the template shows where a value is kept. -/
def pathOf (archive : Archive) (memory : Memory) (version : String) : Except Fault SlashPath :=
  if !admits version then .error (.invalidVersion version)
  else match Template.expand memory archive.template version with
    | .ok name => .ok ((SlashPath.ofString archive.directory).join (SlashPath.ofString name))
    | .error fault => .error (.template fault)

/-- The path that is looked up for a version, if there is one. -/
def askedPath (archive : Archive) (memory : Memory) (version : String) : Option String :=
  match archive.pathOf memory version with
  | .ok path => some path.toString
  | .error _ => none

/-- The stream of the mapping file of a version. There has to be a plain file. -/
def readVersion (archive : Archive) (files : FileSystem) (memory : Memory) (version : String) :
    Attempt Fault Reading := do
  let path := (← Attempt.quiet (archive.pathOf memory version)).toString
  match files.find path with
  | .file _ | .closed _ | .broken .. =>
    Attempt.tell (.reading path)
    return readPath files path
  -- Whether there is a plain file is asked first, and not every refusal is a no.
  | .refused refusal =>
    Attempt.quiet (.error (if refusal.isAbsence then .fileNotFound path else .pathRefused ⟨path, refusal⟩))
  | .embeddedNull => Attempt.quiet (.error (.fileNotFound path))

/-- The index of the mapping file of a version. -/
def load (archive : Archive) (files : FileSystem) (memory : Memory) (version : String) : Attempt Fault NameIndex := do
  NameIndex.ofReading (← archive.readVersion files memory version)

end Archive

end Deobfuscator
