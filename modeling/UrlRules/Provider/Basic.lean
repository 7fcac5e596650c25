import UrlRules.Json.Reader
import UrlRules.Rule.Basic
import UrlRules.Script.Error
import UrlRules.Value.Display

/-!
# Providers

A provider publishes rules in a format of its own. Its document is read into rules as a whole; an
entry that makes no rule is skipped with a warning.
-/
namespace UrlRules

open Text

inductive Provider where
  | clearUrls
  | linkumori
  deriving DecidableEq, Repr

namespace Provider

def all : List Provider := [.clearUrls, .linkumori]

def name : Provider → Text
  | .clearUrls => "clearurls"
  | .linkumori => "linkumori"

/-- The names of all providers, for messages. -/
def available : Text := joinWith (Text.of ", ") (all.map name)

def ofName? (s : Text) : Option Provider := all.find? fun p => p.name == s

/-- What a document gives: rules, and a warning for each entry that gives none. -/
structure Normalized where
  rules : List Rule
  warnings : List Text
  deriving DecidableEq, Repr

def Normalized.append (a b : Normalized) : Normalized :=
  ⟨a.rules ++ b.rules, a.warnings ++ b.warnings⟩

def Normalized.empty : Normalized := ⟨[], []⟩

def Normalized.warning (message : Text) : Normalized := ⟨[], [message]⟩

def Normalized.rule (r : Rule) : Normalized := ⟨[r], []⟩

/-- Why a document gives no rules at all. -/
inductive Error where
  | unknown (kind : Text)
  | noProviders
  | notAList
  | notJson (fault : Json.ReadFault) (place : Json.Place)
  | tooManyDigits (count : Nat)
  | script (error : Script.Error)
  | rule (error : RuleError)
  /-- A warning is to show an integer of too many digits. -/
  | integerTooLong
  deriving DecidableEq, Repr

def Error.message : Error → Text
  | .unknown kind =>
      Text.of "Unknown provider '" ++ kind ++ Text.of "'. Available providers: " ++ available
  | .noProviders => "clearurls: document has no 'providers' mapping"
  | .notAList => "linkumori: 'parameterRules' is not a list"
  | .notJson fault place =>
      Text.of "clearurls: invalid JSON (" ++ (Json.ReadError.malformed fault place).message ++
        Text.of ")"
  | .tooManyDigits count => (Json.ReadError.tooManyDigits count).message
  | .script error => error.message
  | .rule error => error.message
  | .integerTooLong => Value.notWritable

/-- Why a document is given up, and the warnings until then. -/
structure Failure where
  error : Error
  warnings : List Text
  deriving DecidableEq, Repr

def Error.atOnce (e : Error) : Failure := ⟨e, []⟩

/-- What the rule of an entry does. -/
inductive Behaviour where
  | expand (template : Text)
  | strip (names : List Text)
  deriving DecidableEq, Repr

def draftOf (provider : Provider) (id : Text) (pattern : Json) (behaviour : Behaviour) :
    Rule.Draft :=
  let base : Rule.Draft := { id := .text id, pattern, source := some provider.name }
  match behaviour with
  | .expand template => { base with substitution := .text template }
  | .strip names => { base with removeParams := .list (names.map .text) }

/-- The warning that an entry makes no rule. -/
def skipped (provider : Provider) (id why : Text) : Text :=
  provider.name ++ Text.of ": skipping " ++ id ++ Text.of ": " ++ why

/-- The rule of an entry, or a warning why there is none. -/
def makeRule (provider : Provider) (id : Text) (pattern : Json) (behaviour : Behaviour) :
    Except Failure Normalized :=
  match pattern with
  | .text _ =>
      match (draftOf provider id pattern behaviour).check with
      | .ok r => .ok (.rule r)
      | .error (.patternFailure e) => .error (Error.rule (.patternFailure e)).atOnce
      | .error e => .ok (.warning (provider.skipped id e.message))
  | _ => .ok (.warning (provider.skipped id "pattern is not a string"))

/-- Joins what a list of entries gives, in order. -/
def collect {α : Type} (normalize : α → Except Failure Normalized) :
    List α → Except Failure Normalized
  | [] => .ok .empty
  | entry :: entries =>
      match normalize entry with
      | .error f => .error f
      | .ok first =>
          match collect normalize entries with
          | .error f => .error { f with warnings := first.warnings ++ f.warnings }
          | .ok others => .ok (first.append others)

end Provider
end UrlRules
