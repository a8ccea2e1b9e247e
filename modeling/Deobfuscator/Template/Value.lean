import Deobfuscator.Template.Index
import Deobfuscator.Template.Offer
import Deobfuscator.Text.Quoted

/-!
The values that a placeholder can reach, and how they are written. Every value has a kind. A value is written in two
ways: as it is, or in a quoted form that tells texts from other values. An operation that is bound to a value is written
with the place where this value is kept, and equal values may be kept in different places.
-/

namespace Deobfuscator.Template

open Text

/-- What stands in square brackets: a position, or any other text. -/
inductive Key where
  | position (index : Nat)
  | name (text : List Char)
  deriving DecidableEq, Repr

namespace Key

def read (text : List Char) : Except Fault Key := do
  match ← number? text with
  | some index => .ok (.position index)
  | none => .ok (.name text)

/-- A key as text that tells names from numbers. -/
def quotedForm : Key → String
  | position index => toString index
  | name text => quoted (String.ofList text)

end Key

inductive Value where
  | text (content : List Char)
  | absent
  | number (value : Nat)
  /-- The truth value of what is not so. -/
  | no
  | kind (kind : Kind)
  | group (kinds : List Kind)
  /-- The group of the one argument of a kind. -/
  | arguments (argument : Key)
  /-- What a kind holds, as it holds it. -/
  | held (offer : Offer)
  /-- An operation with the value that it works on. -/
  | bound (offer : Offer) (subject : Value)
  /-- A kind with an argument in square brackets. -/
  | family (origin : Kind) (argument : Key)
  /-- All that a kind holds, by name. -/
  | view (kind : Kind)
  | emptyDictionary
  deriving DecidableEq, Repr

/-- Where values are kept, as it is written. -/
abbrev Places := Value → String

/-- Where the values are kept that the placeholders of a template reach. A placeholder is told by its position, behind
the positions of those in whose specs it stands: each may reach values of its own. -/
structure Memory where
  places : List Nat → Places

namespace Memory

/-- A memory that keeps everything in one place. -/
def constant (place : String) : Memory := ⟨fun _ _ => place⟩

/-- The memory that the placeholders meet in the spec of the placeholder at a position. -/
def within (memory : Memory) (position : Nat) : Memory := ⟨fun inner => memory.places (position :: inner)⟩

end Memory

/-- The kind of what a kind holds in some form. A maker is held bound to the kind, a note as the text that it is. -/
def Form.kind : Form → Kind
  | .method => .methods
  | .slot => .slots
  | .ofKind => .kindMethods
  | .maker => .boundMethods
  | .free => .wrappers
  | .property => .properties
  | .field => .fields
  | .note => .texts

namespace Value

def ofString (text : String) : Value := .text text.toList

/-- A text that may be missing. -/
def ofOption (text : Option String) : Value := (text.map ofString).getD .absent

def kindOf : Value → Kind
  | .text _ => .texts
  | .absent => .absence
  | .number _ => .numbers
  | .no => .truths
  | .kind _ => .kinds
  | .group _ | .arguments _ => .groups
  | .held offer => offer.member.form.kind
  | .bound offer _ => if offer.member.form == .slot then .boundSlots else .boundMethods
  | .family .. => .families
  | .view _ => .views
  | .emptyDictionary => .dictionaries

end Value

namespace Member

def description? (entry : Member) : Option String :=
  if entry.description.isEmpty then none else some ("\n".intercalate entry.description)

end Member

namespace Offer

/-- What a kind holds under a name, as a value. -/
def value (offer : Offer) : Value :=
  match offer.member.form with
  | .maker => .bound offer (.kind offer.owner)
  | .note => Value.ofOption offer.member.description?
  | _ => .held offer

/-- An operation as text, bound to a value that is kept in some place. -/
def boundForm (offer : Offer) (places : Places) (subject : Value) : String :=
  (if offer.member.form == .slot then "<method-wrapper '" ++ offer.member.name ++ "'"
    else "<built-in method " ++ offer.member.name) ++ " of " ++ subject.kindOf.fullName ++ " object at " ++
      places subject ++ ">"

/-- What a kind holds under a name, in quoted form. -/
def quotedForm (offer : Offer) (places : Places) : String :=
  let named (what : String) : String :=
    "<" ++ what ++ " '" ++ offer.member.name ++ "' of '" ++ offer.owner.fullName ++ "' objects>"
  match offer.member.form with
  | .method | .ofKind => named "method"
  | .slot => named "slot wrapper"
  | .property => named "attribute"
  | .field => named "member"
  | .maker => offer.boundForm places (.kind offer.owner)
  | .free => "<staticmethod(" ++ offer.boundForm places (.kind offer.owner) ++ ")>"
  | .note => (offer.member.description?.map quoted).getD "None"

end Offer

namespace Value

def shownKind (kind : Kind) : String := "<class '" ++ kind.fullName ++ "'>"

/-- A group as text. A single member is followed by a comma. -/
def shownGroup : List String → String
  | [member] => "(" ++ member ++ ",)"
  | members => "(" ++ ", ".intercalate members ++ ")"

/-- A kind with an argument as text. -/
def shownFamily (origin : Kind) (argument : Key) : String := origin.fullName ++ "[" ++ argument.quotedForm ++ "]"

/-- All that a kind holds as text, by name. -/
def shownHoldings (places : Places) (kind : Kind) : String :=
  let shown (offer : Offer) : String := quoted offer.member.name ++ ": " ++ offer.quotedForm places
  "\x7b" ++ ", ".intercalate (kind.holdings.map shown) ++ "\x7d"

/-- A value as text that tells texts from other values. -/
def quotedForm (places : Places) : Value → String
  | .text content => quoted (String.ofList content)
  | .absent => "None"
  | .number value => toString value
  | .no => "False"
  | .kind known => shownKind known
  | .group kinds => shownGroup (kinds.map shownKind)
  | .arguments argument => shownGroup [argument.quotedForm]
  | .held offer => offer.quotedForm places
  | .bound offer subject => offer.boundForm places subject
  | .family origin argument => shownFamily origin argument
  | .view known => "mappingproxy(" ++ shownHoldings places known ++ ")"
  | .emptyDictionary => "\x7b\x7d"

def shown (places : Places) : Value → List Char
  | .text content => content
  | .view known => (shownHoldings places known).toList
  | value => (value.quotedForm places).toList

end Value

end Deobfuscator.Template
