import UrlRules.Command.Arguments
import UrlRules.Files.Path
import UrlRules.Text.Integer

/-!
# Commands

What can be asked for on the command line.
-/
namespace UrlRules

open Text

/-- Changes of the fields of a rule. -/
structure RuleChanges where
  pattern : Option Text
  substitution : Option Text
  removeParams : List Text
  deriving DecidableEq, Repr

inductive Command where
  | check (url : Text) (rules : Option Path) (rounds : Option Nat) (asJson : Bool)
  | fetch
  | merge
  | build
  | version
  | list (enabledOnly : Bool)
  | add (id : Option Text) (pattern : Text) (substitution : Option Text) (removeParams : List Text)
      (enabled first : Bool)
  | update (id : Text) (changes : RuleChanges)
  | delete (id : Text)
  | toggle (id : Text) (enabled : Bool)
  | importFile (path : Path) (keepIds : Bool)
  | exportFile (path : Path)
  | verify (rules : Option Path)
  deriving DecidableEq, Repr

namespace Command

/-- A command line: the configuration it names, and the command; none if it asks for help. -/
structure Request where
  config : Option Path
  command : Option Command
  deriving DecidableEq, Repr

/-- How the words after the name of a command are read. -/
structure Reader where
  name : Text
  switches : List Switch
  read : Arguments → Except UsageError Command

def patternSwitch : Switch := ⟨"--pattern", some 0x70, true⟩
def substitutionSwitch : Switch := ⟨"--substitution", some 0x73, true⟩
def removeSwitch : Switch := ⟨"--remove-param", some 0x78, true⟩

/-- A flag without a letter. -/
def flag (name : String) : Switch := ⟨Text.of name, none, false⟩

/-- The number of an option, which has to be positive. -/
def positive? (args : Arguments) (name : String) : Except UsageError (Option Nat) :=
  match args.value? name with
  | none => .ok none
  | some value =>
      match readInteger 10 value with
      | .ok n => if 1 ≤ n then .ok (some n.toNat) else .error (.badNumber (Text.of name) value)
      | .error _ => .error (.badNumber (Text.of name) value)

/-- The path of a file that has to be there. -/
def existing (value : Text) : Except UsageError Path :=
  if value.isEmpty then .error (.noSuchFile value) else .ok (Path.ofText value)

/-- A command without places. -/
def plain (command : Arguments → Command) (args : Arguments) : Except UsageError Command := do
  discard <| args.exactly []
  return command args

/-- A command with one place. -/
def withOne (name : String) (command : Arguments → Text → Command) (args : Arguments) :
    Except UsageError Command := do
  match ← args.exactly [Text.of name] with
  | [place] => return command args place
  | _ => throw (.missingArgument (Text.of name))

def readCheck (args : Arguments) : Except UsageError Command := do
  let rounds ← positive? args "--max-redirects"
  let rules ← (args.value? "--rules").mapM existing
  withOne "url" (fun args url => .check url rules rounds (args.has "--json")) args

def readImport (args : Arguments) : Except UsageError Command := do
  match ← args.exactly ["path"] with
  | [path] => return .importFile (← existing path) (args.has "--keep-ids")
  | _ => throw (.missingArgument "path")

def readAdd (args : Arguments) : Except UsageError Command := do
  let some pattern := args.value? "--pattern" | throw (.missingArgument "--pattern")
  plain (fun args => .add (args.value? "--id") pattern (args.value? "--substitution")
    (args.values "--remove-param") (!args.has "--disabled") (!args.has "--append")) args

def readUpdate (args : Arguments) : Except UsageError Command := do
  let changes : RuleChanges :=
    ⟨args.value? "--pattern", args.value? "--substitution", args.values "--remove-param"⟩
  if changes.substitution.isSome ∧ changes.removeParams ≠ [] then
    throw (.clashingOptions "--substitution" "--remove-param")
  withOne "rule_id" (fun _ id => .update id changes) args

def readVerify (args : Arguments) : Except UsageError Command := do
  match args.places with
  | [] => return .verify none
  | [path] => return .verify (some (← existing path))
  | _ :: word :: _ => throw (.unwantedArgument word)

/-- The commands on the list of rules. -/
def ruleReaders : List Reader := [
  ⟨"list", [flag "--enabled"], plain fun args => .list (args.has "--enabled")⟩,
  ⟨"add", [patternSwitch, substitutionSwitch, removeSwitch, ⟨"--id", none, true⟩,
    flag "--disabled", flag "--append"], readAdd⟩,
  ⟨"update", [patternSwitch, substitutionSwitch, removeSwitch], readUpdate⟩,
  ⟨"delete", [], withOne "rule_id" fun _ id => .delete id⟩,
  ⟨"enable", [], withOne "rule_id" fun _ id => .toggle id true⟩,
  ⟨"disable", [], withOne "rule_id" fun _ id => .toggle id false⟩,
  ⟨"import", [flag "--keep-ids"], readImport⟩,
  ⟨"export", [], withOne "path" fun _ path => .exportFile (Path.ofText path)⟩,
  ⟨"verify", [], readVerify⟩]

/-- The other commands. -/
def readers : List Reader := [
  ⟨"check", [⟨"--rules", some 0x72, true⟩, ⟨"--max-redirects", some 0x6D, true⟩, flag "--json"],
    readCheck⟩,
  ⟨"fetch", [], plain fun _ => .fetch⟩,
  ⟨"merge", [], plain fun _ => .merge⟩,
  ⟨"build", [], plain fun _ => .build⟩,
  ⟨"version", [], plain fun _ => .version⟩]

/-- Reads the name of a command and the words after it. None means that help is asked for. -/
def readWith (readers : List Reader) : List Text → Except UsageError (Option Command)
  | [] => .error .missingCommand
  | name :: words =>
      match readers.find? (·.name == name) with
      | none => .error (.unknownCommand name)
      | some reader => do
          let args ← Arguments.read reader.switches true words
          if args.has "--help" then return none
          return some (← reader.read args)

/-- Reads a command on the list of rules. -/
def readRules (words : List Text) : Except UsageError (Option Command) := do
  let args ← Arguments.read [] false words
  if args.has "--help" then return none
  readWith ruleReaders args.places

def groupName : Text := "rules"

/-- Reads the words of a command line. -/
def read (words : List Text) : Except UsageError Request := do
  let args ← Arguments.read [⟨"--config", some 0x63, true⟩, ⟨"--verbose", some 0x76, false⟩] false words
  let config := (args.value? "--config").map Path.ofText
  if args.has "--help" then return ⟨config, none⟩
  match args.places with
  | [] => throw .missingCommand
  | name :: words =>
      let command ← if name = groupName then readRules words else readWith readers (name :: words)
      return ⟨config, command⟩

end Command
end UrlRules
