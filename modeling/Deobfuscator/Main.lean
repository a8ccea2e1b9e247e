import Deobfuscator.CommandLine.PlainConsole
import Deobfuscator.CommandLine.Run

/-!
The program. It looks at the file system for the one path that a command asks about and prints what the command comes
to. As a server it serves one connection, on standard input and output. Its values are kept in no place that could be
told, so it names one for all.
-/

namespace Deobfuscator.Program

open CommandLine
open Template (Memory)

def memory : Memory := .constant "0x7f0000000000"

/-- The refusal of an error with a number and a text. -/
def refusal (number : UInt32) (text : String) : Refusal where
  number := number.toNat
  text := String.ofList (text.toList.filter fun c => c != '\n' && c != '\r')
  unbroken := by
    rw [String.toList_ofList, List.all_eq_true]
    exact fun c inside => (List.mem_filter.mp inside).2

/-- What the file system of the process holds under a path. -/
def look (path : String) : IO Lookup := do
  if path.toList.contains '\x00' then return .embeddedNull
  try
    return .file (← IO.FS.readBinFile path).toList
  catch
    | .noFileOrDirectory _ code text | .inappropriateType _ code text | .invalidArgument _ code text
    | .otherError code text => return .refused (refusal code text)
    | .permissionDenied _ code text => return .closed (refusal code text)
    | .hardwareFault code text => return .broken [] (refusal code text)
    | _ => return .refused .missing

/-- The file system of the process, as far as one path is concerned. -/
def filesAt : Option String → IO FileSystem
  | some path => return .single path (← look path)
  | none => return .nothing

def log (level : Level) (notices : List Notice) : IO Unit := do
  for notice in notices do
    if level == .debug || notice.level != .debug then IO.eprintln notice.text

/-- The path that a frame makes the resolver look up. -/
def askedPath (resolver : Resolver) : Frame → Option String
  | .request bytes => resolver.askedPath memory (Connection.request bytes)
  | _ => none

/-- Serves frames one after the other, each with the files as they are when its turn comes. -/
def serveFrames (settings : Settings) (connection : Connection) : Resolver → List Frame → IO Unit
  | _, [] => return
  | resolver, frame :: rest => do
    let files ← filesAt (askedPath resolver frame)
    let exchange := connection.serveFrames (Resolver.respondOrFail files memory) resolver [frame]
    log settings.logLevel exchange.notices
    for line in exchange.sent do
      IO.print line
    if let some fault := exchange.fault then IO.eprintln fault.message
    serveFrames settings connection exchange.state rest

/-- All bytes of a stream. -/
partial def readAll (stream : IO.FS.Stream) (bytes : ByteArray) : IO ByteArray := do
  let more ← stream.read 8192
  if more.isEmpty then return bytes else readAll stream (bytes ++ more)

def finish (ending : Ending) : IO UInt32 := do
  match ending with
  | .finished status output errors =>
    IO.print output
    IO.eprint errors
    return status.toUInt32
  | .escaped fault =>
    IO.eprintln fault.message
    return 1
  | .serving settings resolver =>
    let connection := settings.connection ⟨"stdin", 0⟩
    let bytes ← readAll (← IO.getStdin) .empty
    serveFrames settings connection resolver (Frame.ofBytes connection.limit bytes.toList)
    return 0

end Deobfuscator.Program

def main (words : List String) : IO UInt32 := do
  let files ← Deobfuscator.Program.filesAt (Deobfuscator.CommandLine.askedPath Deobfuscator.Program.memory words)
  Deobfuscator.Program.finish (Deobfuscator.CommandLine.run .plain files Deobfuscator.Program.memory words)
