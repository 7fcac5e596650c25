import UrlRules.Text.Basic

/-!
# Arguments

The words of a command line are options, which start with a hyphen, values of options, and places. An
option has a long name and perhaps a letter; letters may be written together, and the value of an option
may stand in the same word. After two hyphens all words are places.
-/
namespace UrlRules.Command

open Text

/-- Why a command line is not understood. -/
inductive UsageError where
  | unknownOption (word : Text)
  | missingValue (name : Text)
  | unwantedValue (name : Text)
  | unknownCommand (name : Text)
  | missingCommand
  | missingArgument (name : Text)
  | unwantedArgument (word : Text)
  | badNumber (name value : Text)
  | noSuchFile (path : Text)
  | clashingOptions (first second : Text)
  deriving DecidableEq, Repr

def UsageError.message : UsageError → Text
  | .unknownOption word => Text.of "No such option: " ++ word
  | .missingValue name => Text.of "Option " ++ name ++ Text.of " requires an argument."
  | .unwantedValue name => Text.of "Option " ++ name ++ Text.of " does not take a value."
  | .unknownCommand name => Text.of "No such command: " ++ name
  | .missingCommand => "Missing command."
  | .missingArgument name => Text.of "Missing argument: " ++ name
  | .unwantedArgument word => Text.of "Got unexpected extra argument: " ++ word
  | .badNumber name value =>
      Text.of "Invalid value for " ++ name ++ Text.of ": " ++ value ++
        Text.of " is not a positive number."
  | .noSuchFile path => Text.of "Path " ++ path ++ Text.of " does not exist."
  | .clashingOptions first second =>
      Text.of "Use either " ++ first ++ Text.of " or " ++ second ++ Text.of ", not both."

/-- An option that a command understands. -/
structure Switch where
  name : Text
  letter : Option CodePoint
  takesValue : Bool
  deriving DecidableEq, Repr

/-- The words of a command line by their roles. -/
structure Arguments where
  /-- The names of the options with their values; empty for those that take none. -/
  options : List (Text × Text)
  places : List Text
  deriving DecidableEq, Repr

namespace Arguments

def hyphen : CodePoint := 0x2D
def equalsSign : CodePoint := 0x3D

def has (args : Arguments) (name : String) : Bool := args.options.any (·.1 == Text.of name)

/-- All values of an option, in order. -/
def values (args : Arguments) (name : String) : List Text :=
  (args.options.filter (·.1 == Text.of name)).map (·.2)

/-- The value of an option; the last one if it is repeated. -/
def value? (args : Arguments) (name : String) : Option Text := (args.values name).getLast?

/-- What a word says about options: those it gives, and the one whose value is the next word. -/
abbrev Word := List (Text × Text) × Option Text

/-- Reads a word that names an option in full. -/
def readName (switches : List Switch) (word : Text) : Except UsageError Word :=
  let (name, value) := cut equalsSign word
  match switches.find? (·.name == name) with
  | none => .error (.unknownOption name)
  | some s =>
      match s.takesValue, value with
      | true, some v => .ok ([(name, v)], none)
      | true, none => .ok ([], some name)
      | false, some _ => .error (.unwantedValue name)
      | false, none => .ok ([(name, [])], none)

/-- Reads a word of letters. -/
def readLetters (switches : List Switch) : Text → Except UsageError Word
  | [] => .ok ([], none)
  | c :: s =>
      match switches.find? (·.letter == some c) with
      | none => .error (.unknownOption [hyphen, c])
      | some switch =>
          if switch.takesValue then
            if s.isEmpty then .ok ([], some switch.name) else .ok ([(switch.name, s)], none)
          else do
            let (options, awaited) ← readLetters switches s
            return ((switch.name, []) :: options, awaited)

/-- Reads a word that is an option, if it is one. -/
def readWord? (switches : List Switch) (word : Text) : Option (Except UsageError Word) :=
  match word with
  | 0x2D :: 0x2D :: _ => some (readName switches word)
  | 0x2D :: c :: s => some (readLetters switches (c :: s))
  | _ => none

def withOptions (options : List (Text × Text)) (args : Arguments) : Arguments :=
  { args with options := options ++ args.options }

def withPlace (word : Text) (args : Arguments) : Arguments :=
  { args with places := word :: args.places }

/-- Reads words; the first is the value of the awaited option if there is one. With `mixed` options may
follow places. -/
def readAfter (switches : List Switch) (mixed : Bool) :
    Option Text → List Text → Except UsageError Arguments
  | none, [] => .ok ⟨[], []⟩
  | some name, [] => .error (.missingValue name)
  | some name, word :: words => do
      return (← readAfter switches mixed none words).withOptions [(name, word)]
  | none, word :: words =>
      if word = [hyphen, hyphen] then .ok ⟨[], words⟩
      else
        match readWord? switches word with
        | some result => do
            let (options, awaited) ← result
            return (← readAfter switches mixed awaited words).withOptions options
        | none =>
            if mixed then do return (← readAfter switches mixed none words).withPlace word
            else .ok ⟨[], word :: words⟩

/-- The option that every command understands. -/
def helpSwitch : Switch := ⟨"--help", none, false⟩

/-- Reads the words after the name of a command. -/
def read (switches : List Switch) (mixed : Bool) (words : List Text) :
    Except UsageError Arguments :=
  readAfter (helpSwitch :: switches) mixed none words

/-- The places, as many as there are names. -/
def exactly (names : List Text) (args : Arguments) : Except UsageError (List Text) :=
  match names.drop args.places.length, args.places.drop names.length with
  | name :: _, _ => .error (.missingArgument name)
  | [], word :: _ => .error (.unwantedArgument word)
  | [], [] => .ok args.places

end Arguments
end UrlRules.Command
