import Deobfuscator.FileSystem
import Deobfuscator.Text.Pieces

/-!
A tree of directories in memory. It is the working directory of a process: relative paths start at its root, and what
lies outside of it are directories that hold no files.
-/

namespace Deobfuscator

open Text

inductive Node where
  | directory
  | file (bytes : List UInt8)
  deriving DecidableEq, Repr

/-- The nodes below the root, by the names on the way to them. -/
structure FileTree where
  nodes : List (List String × Node)
  deriving Repr

namespace FileTree

def empty : FileTree := ⟨[]⟩

/-- The node at the end of a way. -/
def node? (tree : FileTree) (way : List String) : Option Node :=
  if way.isEmpty then some .directory else tree.nodes.lookup way

def set (tree : FileTree) (way : List String) (node : Node) : FileTree :=
  ⟨(way, node) :: tree.nodes.filter (·.1 ≠ way)⟩

/-- Makes a directory where nothing is. -/
def ensureDirectory (tree : FileTree) (way : List String) : FileTree :=
  if (tree.node? way).isSome then tree else tree.set way .directory

/-- The names of a path, without the empty ones and the single dots. -/
def wayOf (path : String) : List String :=
  ((pieces '/' path.toList).filter fun name => !name.isEmpty && name != ['.']).map String.ofList

/-- Puts a node at a path, and directories on the way to it. -/
def write (tree : FileTree) (path : String) (node : Node) : FileTree :=
  let way := wayOf path
  let parents := (List.range way.length).map way.take
  (parents.foldl ensureDirectory tree).set way node

/-- Removes the node at a path and all nodes below it. -/
def remove (tree : FileTree) (path : String) : FileTree :=
  let way := wayOf path
  ⟨tree.nodes.filter fun (other, _) => !way.isPrefixOf other⟩

/-- The longest name of a node and the longest path, in bytes. -/
def nameLimit : Nat := 255
def pathLimit : Nat := 4095

/-- A directory on the way along a path. -/
inductive Place where
  | inside (way : List String)
  | outside

/-- What is found along the names of a path, one directory after the other. A slash or a dot at the end asks for a
directory. -/
def walk (tree : FileTree) : Place → List String → Lookup
  | _, [] => .refused .isDirectory
  | .outside, name :: rest =>
    -- No way leads back in, but a name is measured before it is looked for.
    if name == "" || name == "." || name == ".." then tree.walk .outside rest
    else .refused (if nameLimit < name.utf8ByteSize then .nameTooLong else .missing)
  | .inside way, name :: rest =>
    if name == "" || name == "." then tree.walk (.inside way) rest
    else if name == ".." then tree.walk (if way.isEmpty then .outside else .inside way.dropLast) rest
    else if nameLimit < name.utf8ByteSize then .refused .nameTooLong
    else match tree.node? (way ++ [name]) with
      | none => .refused .missing
      | some .directory => tree.walk (.inside (way ++ [name])) rest
      | some (.file bytes) => if rest.isEmpty then .file bytes else .refused .notDirectory

def find (tree : FileTree) (path : String) : Lookup :=
  if path.toList.contains '\x00' then .embeddedNull
  else if path.isEmpty then .refused .missing
  else if pathLimit < path.utf8ByteSize then .refused .nameTooLong
  else tree.walk (if path.startsWith "/" then .outside else .inside []) ((pieces '/' path.toList).map String.ofList)

def fileSystem (tree : FileTree) : FileSystem := ⟨tree.find⟩

end FileTree

end Deobfuscator
