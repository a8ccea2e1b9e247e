import Deobfuscator.CommandLine.Console
import Deobfuscator.Text.Quoted
import Deobfuscator.Text.Similarity

/-!
The commands with their options and arguments, and what is wrong with a command line that does not fit them.
-/

namespace Deobfuscator.CommandLine

open Text

inductive OptionName where
  | help
  | number
  | host
  | verbose
  | directory
  | template
  | cacheSize
  | lineLimit
  deriving DecidableEq, Repr

namespace OptionName

def long : OptionName → String
  | .help => "--help"
  | .number => "--port"
  | .host => "--host"
  | .verbose => "--verbose"
  | .directory => "--maps-dir"
  | .template => "--map-template"
  | .cacheSize => "--cache-size"
  | .lineLimit => "--max-line-length"

def short? : OptionName → Option Char
  | .number => some 'p'
  | .verbose => some 'v'
  | _ => none

def takesValue : OptionName → Bool
  | .help | .verbose => false
  | _ => true

/-- All names of an option, in quotes. -/
def label (option : OptionName) : String :=
  let long := "'" ++ option.long ++ "'"
  match option.short? with
  | some short => "'-" ++ String.singleton short ++ "' / " ++ long
  | none => long

end OptionName

inductive CommandName where
  | lookup
  | stats
  | serve
  deriving DecidableEq, Repr

structure Argument where
  name : String
  required : Bool
  deriving DecidableEq, Repr

/-- How usage lines and messages show an argument. -/
def Argument.label (argument : Argument) : String :=
  if argument.required then argument.name else "[" ++ argument.name ++ "]"

namespace CommandName

def text : CommandName → String
  | .lookup => "lookup"
  | .stats => "stats"
  | .serve => "serve"

def all : List CommandName := [lookup, stats, serve]

def ofText? (text : String) : Option CommandName := all.find? (·.text == text)

def options : CommandName → List OptionName
  | .lookup => [.directory, .template, .help]
  | .stats => [.help]
  | .serve => [.number, .host, .verbose, .directory, .template, .cacheSize, .lineLimit, .help]

def versionArgument : Argument := ⟨"VERSION", true⟩
def classArgument : Argument := ⟨"CLASS_NAME", true⟩
def methodArgument : Argument := ⟨"METHOD_NAME", false⟩
def lineArgument : Argument := ⟨"LINE_NUMBER", false⟩
def mappingArgument : Argument := ⟨"MAPPING", true⟩

def arguments : CommandName → List Argument
  | .lookup => [versionArgument, classArgument, methodArgument, lineArgument]
  | .stats => [mappingArgument]
  | .serve => []

end CommandName

def programName : String := "cli"

/-- The options of the program itself, in front of a command. -/
def programOptions : List OptionName := [.help]

inductive UsageFault where
  | missingCommand
  /-- There is no command of this name; those with similar names may be meant. -/
  | noSuchCommand (name : String) (similar : List String)
  /-- There is no option of this name; those with similar names may be meant. -/
  | noSuchOption (name : String) (similar : List String)
  /-- An option that takes a value is the last word. -/
  | missingValue (name : String)
  | unwantedValue (name : String)
  | missingArgument (argument : Argument)
  | extraArguments (words : List String)
  /-- The value of the parameter with this label is no integer; a range is asked for by `ranged`. -/
  | notAnInteger (label : String) (ranged : Bool) (word : String)
  | notPositive (label : String) (value : Int)
  | noSuchFile (path : String)
  | isDirectory (path : String)
  | notReadable (path : String)
  deriving DecidableEq, Repr

namespace UsageFault

def unknownCommand (name : String) : UsageFault :=
  .noSuchCommand name (closestNames name (CommandName.all.map (·.text)))

def unknownOption (options : List OptionName) (name : String) : UsageFault :=
  .noSuchOption name (closestNames name (options.map (·.long)))

/-- The names that may be meant. -/
def suggestion : List String → String
  | [] => ""
  | [name] => " Did you mean " ++ quoted name ++ "?"
  | names => " (Did you mean one of: " ++ ", ".intercalate (names.map quoted) ++ "?)"

def message : UsageFault → String
  | .missingCommand => "Missing command."
  | .noSuchCommand name similar => "No such command " ++ quoted name ++ "." ++ suggestion similar
  | .noSuchOption name similar => "No such option " ++ quoted name ++ "." ++ suggestion similar
  | .missingValue name => "Option " ++ quoted name ++ " requires an argument."
  | .unwantedValue name => "Option " ++ quoted name ++ " does not take a value."
  | .missingArgument argument => "Missing argument '" ++ argument.label ++ "'."
  | .extraArguments words =>
    "Got unexpected extra argument" ++ (if words.length == 1 then "" else "s") ++ " (" ++ " ".intercalate words ++ ")"
  | .notAnInteger label ranged word =>
    "Invalid value for " ++ label ++ ": " ++ quoted word ++ " is not a valid integer" ++
      (if ranged then " range." else ".")
  | .notPositive label value => "Invalid value for " ++ label ++ ": " ++ toString value ++ " is not in the range x>=1."
  | .noSuchFile path =>
    "Invalid value for '" ++ CommandName.mappingArgument.label ++ "': File " ++ quoted path ++ " does not exist."
  | .isDirectory path =>
    "Invalid value for '" ++ CommandName.mappingArgument.label ++ "': File " ++ quoted path ++ " is a directory."
  | .notReadable path =>
    "Invalid value for '" ++ CommandName.mappingArgument.label ++ "': File " ++ quoted path ++ " is not readable."

/-- The usage is shown with every fault but those about the value of an option. -/
def showsUsage : UsageFault → Bool
  | .missingValue _ | .unwantedValue _ => false
  | _ => true

/-- The name of a command in full, or of the program if no command was recognised. -/
def commandText (command : Option CommandName) : String :=
  programName ++ (match command with | some name => " " ++ name.text | none => "")

def usage (command : Option CommandName) : String :=
  let arguments := match command with
    | some name => name.arguments.map fun argument => " " ++ argument.label
    | none => [" COMMAND", " [ARGS]..."]
  "Usage: " ++ commandText command ++ " [OPTIONS]" ++ String.join arguments

def report (console : Console) (command : Option CommandName) (fault : UsageFault) : String :=
  let error := console.error fault.message
  if fault.showsUsage then
    console.line (usage command ++ "\nTry '" ++ commandText command ++ " --help' for help.\n") ++ error
  else error

end UsageFault

end Deobfuscator.CommandLine
