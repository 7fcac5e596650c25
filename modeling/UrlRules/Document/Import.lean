import UrlRules.Json.Writer
import UrlRules.Rule.Wire
import UrlRules.Value.Display

/-!
# Lists of rules in files

A document is a list of rules, or an object with such a list under `rules`. It is taken as a whole
or refused as a whole; a refusal lists every invalid rule, and every id that repeats one before it,
in the order of the document.
-/
namespace UrlRules.Document

open Text

inductive IssueCause where
  | invalid (fault : RuleFault)
  | invalidPattern (pattern : Text) (reason : Pattern.Error) (id : Text)
  | duplicateId (id : Text)
  deriving DecidableEq, Repr

/-- What is wrong with one rule of a document. -/
structure Issue where
  index : Nat
  /-- The id of the rule as far as it has one. -/
  ruleId : Text
  cause : IssueCause
  deriving DecidableEq, Repr

namespace Issue

def field (i : Issue) : Text :=
  match i.cause with
  | .invalid fault => fault.field
  | .invalidPattern .. => "regexFilter"
  | .duplicateId _ => "id"

def message (i : Issue) : Text :=
  match i.cause with
  | .invalid fault => fault.message
  | .invalidPattern pattern reason id => RuleError.invalidPatternMessage pattern reason id
  | .duplicateId id => Text.of "Duplicate rule id '" ++ id ++ Text.of "'"

/-- The line of an issue in a list of them. -/
def line (i : Issue) : Text :=
  Text.of "  rule #" ++ ofNat i.index ++ Text.of " (" ++
    (if i.ruleId.isEmpty then Text.of "<no id>" else i.ruleId) ++ Text.of ")" ++
    (if i.field.isEmpty then [] else Text.of " [" ++ i.field ++ Text.of "]") ++
    Text.of ": " ++ i.message

end Issue

/-- Why a document gives no rules. -/
inductive Error where
  /-- A rule, or the document itself, is invalid. -/
  | rule (error : RuleError)
  | rejected (issues : List Issue)
  deriving DecidableEq, Repr

def rejectedMessage (issues : List Issue) : Text :=
  Text.of "Import rejected: " ++ ofNat issues.length ++ Text.of " invalid rule(s)\n" ++
    joinWith [lineFeed] (issues.map Issue.line)

def Error.message : Error → Text
  | .rule error => error.message
  | .rejected issues => rejectedMessage issues

/-- The list of rules in a document. -/
def entriesOf (data : Json) : Except RuleFault (List Json) :=
  match data with
  | .object fields =>
      match Json.field? fields (Text.of "rules") with
      | none => .error .missingRules
      | some (.list entries) => .ok entries
      | some _ => .error .rulesNotList
  | .list entries => .ok entries
  | _ => .error .rulesNotList

/-- The id to show for a rule that is invalid: the one in the fault, or what stands in its place. -/
def shownId (entry : Json) (fault : RuleFault) : Text :=
  if fault.ruleId.isEmpty then
    match entry with
    | .object fields => ((Json.field? fields (Text.of "id")).getD (.text [])).display
    | _ => []
  else fault.ruleId

/-- What one entry of a document gives: a rule or an issue. -/
def readEntry (source : Option Text) (index : Nat) (entry : Json) :
    Except RuleError (Except Issue Rule) :=
  match Rule.ofJson entry source with
  | .ok r => .ok (.ok r)
  | .error (.invalidRecord fault) => .ok (.error ⟨index, shownId entry fault, .invalid fault⟩)
  | .error (.invalidPattern pattern reason id) =>
      .ok (.error ⟨index, id, .invalidPattern pattern reason id⟩)
  | .error e => .error e

/-- Reads entries from an index on. With `unique` a rule whose id is in `seen` is an issue. Each entry is
checked and compared with the ids before it at once; to check them all first, then to compare the ids, and to
sort the issues by their indices in the end gives the same, since an index has one issue at most. -/
def readEntries (source : Option Text) (unique : Bool) :
    Nat → List Text → List Json → Except RuleError (List Rule × List Issue)
  | _, _, [] => .ok ([], [])
  | index, seen, entry :: entries => do
      match ← readEntry source index entry with
      | .ok r =>
          let (rules, issues) ← readEntries source unique (index + 1) (r.id :: seen) entries
          let repeated := unique && seen.contains r.id
          return (r :: rules, if repeated then ⟨index, r.id, .duplicateId r.id⟩ :: issues else issues)
      | .error issue =>
          let (rules, issues) ← readEntries source unique (index + 1) seen entries
          return (rules, issue :: issues)

/-- The rules of a document, in its order. -/
def parse (data : Json) (source : Option Text) (unique : Bool) : Except Error (List Rule) :=
  match entriesOf data with
  | .error fault => .error (.rule (.invalidRecord fault))
  | .ok entries =>
      match readEntries source unique 0 [] entries with
      | .error e => .error (.rule e)
      | .ok (rules, []) => .ok rules
      | .ok (_, issues) => .error (.rejected issues)

/-- The document that holds rules. -/
def ofRules (rules : List Rule) : Json := .object [(Text.of "rules", .list (rules.map Rule.toJson))]

/-- The text of the document that holds rules. -/
def textOfRules (rules : List Rule) : Text := (ofRules rules).document

/-- Gives rules new ids, the i-th one the i-th id of a supply. -/
def remap (ids : Nat → Json) : Nat → List Rule → Except RuleError (List Rule)
  | _, [] => .ok []
  | i, r :: rules => do
      let renamed ← r.withId (ids i)
      return renamed :: (← remap ids (i + 1) rules)

/-- The rules of a document, under new ids if a supply of them is given. -/
def importRules (data : Json) (ids : Option (Nat → Json)) : Except Error (List Rule) :=
  match parse data none true with
  | .error e => .error e
  | .ok rules =>
      match ids with
      | none => .ok rules
      | some ids =>
          match remap ids 0 rules with
          | .ok rules => .ok rules
          | .error e => .error (.rule e)

end UrlRules.Document
