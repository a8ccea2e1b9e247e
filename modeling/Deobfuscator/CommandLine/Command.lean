import Deobfuscator.CommandLine.Integer
import Deobfuscator.CommandLine.Words
import Deobfuscator.Settings

/-!
A command line read in full: which command, with which values.
-/

namespace Deobfuscator.CommandLine

inductive Command where
  | lookup (archive : Archive) (query : Query)
  | stats (path : String)
  | serve (settings : Settings)
  deriving DecidableEq, Repr

/-- Why a command line does not become a command. -/
inductive Refused where
  /-- Help is asked for about a command, or about the program. -/
  | help (command : Option CommandName)
  /-- The usage of a command, or of the program, is not kept. -/
  | usage (command : Option CommandName) (fault : UsageFault)
  | unexpected (fault : Fault)
  deriving DecidableEq, Repr

def positive (option : OptionName) (word : String) : Except UsageFault Int :=
  match integer? word with
  | none => .error (.notAnInteger option.label true word)
  | some value => if 1 ≤ value then .ok value else .error (.notPositive option.label value)

/-- Settings with one option applied. -/
def applyOption (settings : Settings) (given : Given) : Except UsageFault Settings :=
  match given.option with
  | .help => .ok settings
  | .number =>
    match integer? given.value with
    | some number => .ok { settings with address := { settings.address with number := number } }
    | none => .error (.notAnInteger given.option.label false given.value)
  | .host => .ok { settings with address := { settings.address with host := given.value } }
  | .verbose => .ok { settings with verbose := true }
  | .directory => .ok { settings with archive := { settings.archive with directory := given.value } }
  | .template => .ok { settings with archive := { settings.archive with template := given.value } }
  | .cacheSize => (positive given.option given.value).map fun size => { settings with cacheSize := size }
  | .lineLimit => (positive given.option given.value).map fun limit => { settings with lineLimit := limit }

def noMore (words : List String) : Except UsageFault Unit :=
  if words.isEmpty then .ok () else .error (.extraArguments words)

def lookupQuery : List String → Except UsageFault Query
  | [] => .error (.missingArgument CommandName.versionArgument)
  | [_] => .error (.missingArgument CommandName.classArgument)
  | version :: className :: rest => do
    let line ← match rest[1]? with
      | none => .ok none
      | some word =>
        match integer? word with
        | some line => .ok (some line)
        | none => .error (.notAnInteger ("'" ++ CommandName.lineArgument.label ++ "'") false word)
    noMore (rest.drop 2)
    return ⟨version, ⟨className, rest[0]?, line⟩⟩

/-- The file that the arguments of a summary name. It has to be there, must not be a directory, and may be read. -/
def mappingPath (files : FileSystem) : List String → Except Refused String
  | [] => .error (.usage (some .stats) (.missingArgument CommandName.mappingArgument))
  | path :: rest =>
    let readable := (noMore rest).mapError (.usage (some .stats)) |>.map fun _ => path
    match files.find path with
    | .embeddedNull => .error (.unexpected .embeddedNull)
    | .refused refusal =>
      .error (.usage (some .stats) (if refusal.number = Refusal.isDirectory.number then .isDirectory path
        else .noSuchFile path))
    | .closed refusal =>
      if refusal.number = Refusal.denied.number then .error (.usage (some .stats) (.notReadable path)) else readable
    | .file _ | .broken .. => readable

def Command.read (files : FileSystem) (words : List String) : Except Refused Command := do
  let some (name, rest) ← (splitCommand words).mapError (.usage none) | .error (.help none)
  let (given, arguments) ← (readWords name.options rest).mapError (.usage (some name))
  if given.any (·.option == .help) then .error (.help (some name))
  let settings ← ((effective given).foldlM applyOption Settings.standard).mapError (.usage (some name))
  match name with
  | .lookup => return .lookup settings.archive (← (lookupQuery arguments).mapError (.usage (some name)))
  | .stats => return .stats (← mappingPath files arguments)
  | .serve => do
    (noMore arguments).mapError (.usage (some name))
    return .serve settings

end Deobfuscator.CommandLine
