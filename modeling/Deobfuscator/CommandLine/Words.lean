import Deobfuscator.CommandLine.Usage
import Deobfuscator.Text.Pieces

/-!
The words of a command line. A word that starts with a dash is about options, unless it is a single dash or stands after
`--`. Options are named in full, with the value in the same word after an equals sign or in the next word, or by letters
after one dash, of which the last may have its value behind it.
-/

namespace Deobfuscator.CommandLine

open Text

/-- An option that was given, with its value if it takes one. -/
structure Given where
  option : OptionName
  value : String
  deriving DecidableEq, Repr

/-- What one word about options says: the options that are complete, and the one, as typed, that awaits its value. -/
structure OptionWord where
  complete : List Given
  awaiting : Option (OptionName × String)
  deriving DecidableEq, Repr

def isOptionWord (word : String) : Bool := word.startsWith "-" && word != "-"

/-- A word in front of the first equals sign, and what follows the sign. -/
def splitValue (word : List Char) : String × Option String :=
  match word.dropWhile (· != '=') with
  | [] => (String.ofList word, none)
  | _ :: value => (String.ofList (word.takeWhile (· != '=')), some (String.ofList value))

def readLetters (options : List OptionName) : List Char → Except UsageFault OptionWord
  | [] => .ok ⟨[], none⟩
  | letter :: rest =>
    let typed := "-" ++ String.singleton letter
    match options.find? (·.short? == some letter) with
    | none => .error (.noSuchOption typed [])
    | some option =>
      if !option.takesValue then
        (readLetters options rest).map fun word => { word with complete := ⟨option, ""⟩ :: word.complete }
      else if rest.isEmpty then .ok ⟨[], some (option, typed)⟩
      else .ok ⟨[⟨option, String.ofList rest⟩], none⟩

def readOptionWord (options : List OptionName) (word : String) : Except UsageFault OptionWord :=
  let (name, value?) := splitValue word.toList
  match options.find? (·.long == name) with
  | some option =>
    match option.takesValue, value? with
    | true, some value => .ok ⟨[⟨option, value⟩], none⟩
    | true, none => .ok ⟨[], some (option, name)⟩
    | false, some _ => .error (.unwantedValue name)
    | false, none => .ok ⟨[⟨option, ""⟩], none⟩
  | none =>
    if word.startsWith "--" then .error (.unknownOption options name) else readLetters options (word.toList.drop 1)

/-- The options that are given by words, in order, and the words that are arguments. -/
def readWords (options : List OptionName) : List String → Except UsageFault (List Given × List String)
  | [] => .ok ([], [])
  | word :: rest =>
    if word == "--" then .ok ([], rest)
    else if !isOptionWord word then do
      let (given, arguments) ← readWords options rest
      return (given, word :: arguments)
    else do
      let ⟨complete, awaiting⟩ ← readOptionWord options word
      match awaiting, rest with
      | none, rest => do
        let (given, arguments) ← readWords options rest
        return (complete ++ given, arguments)
      | some (_, typed), [] => .error (.missingValue typed)
      | some (option, _), value :: rest => do
        let (given, arguments) ← readWords options rest
        return (complete ++ ⟨option, value⟩ :: given, arguments)

/-- The options that count, in the order in which they were first given, each with the value that was given last. -/
def effective (given : List Given) : List Given :=
  (given.map (·.option)).eraseDups.filterMap fun option => given.reverse.find? (·.option == option)

/-- The options of the program that words start with, and the words after them. They end at the first argument, or at
`--`. -/
def readProgramWords (words : List String) : Except UsageFault (List Given × List String) := do
  let isOption := fun word => isOptionWord word && word != "--"
  let (given, _) ← readWords programOptions (words.takeWhile isOption)
  let rest := words.dropWhile isOption
  return (given, if rest.head? == some "--" then rest.drop 1 else rest)

/-- The command that words name, in front of the words after it; `none` if the options in front ask for help. Behind
`--`, a name that is no command may still be an option of the program. -/
def splitCommand (words : List String) : Except UsageFault (Option (CommandName × List String)) := do
  let (given, rest) ← readProgramWords words
  if !given.isEmpty then return none
  match rest with
  | [] => .error .missingCommand
  | name :: after =>
    match CommandName.ofText? name with
    | some command => return some (command, after)
    | none =>
      let (given, _) ← readProgramWords rest
      if given.isEmpty then .error (.unknownCommand name) else return none

end Deobfuscator.CommandLine
