import UrlRules.Json.Basic
import UrlRules.Pattern.Search
import UrlRules.Rule.Error

/-!
# Rules

A rule either makes a new URL through a template or strips query parameters. `Draft` holds the
fields of a rule before they are checked, and `Draft.check` makes a rule of a draft whose fields are
right.
-/
namespace UrlRules

/-- An example that a rule carries: a URL and what the rule makes of it. -/
structure Example where
  input : Json
  expected : Json
  deriving DecidableEq, Repr, Inhabited

structure Rule where
  id : Text
  pattern : Text
  /-- The template of the new URL; none for a rule that strips parameters. -/
  substitution : Option Text
  /-- The names of the query parameters to strip. -/
  removeParams : List Text
  enabled : Bool
  /-- Where the rule came from. -/
  source : Option Text
  examples : List Example
  deriving DecidableEq, Repr, Inhabited

namespace Rule

def stripsParams (r : Rule) : Bool := !r.removeParams.isEmpty

/-- Equality of rules wherever they came from. -/
def sameRule (r s : Rule) : Bool := { r with source := none } == { s with source := none }

/-- What `Draft.check` establishes. -/
structure Valid (r : Rule) : Prop where
  id_ne_nil : r.id ≠ []
  pattern_ne_nil : r.pattern ≠ []
  pattern_reads : ∃ p, Pattern.read r.pattern = .ok p
  one_behaviour : r.substitution.isSome ↔ r.removeParams = []
  names_ne_nil : ∀ name ∈ r.removeParams, name ≠ []

/-- The fields of a rule as values of any kind. -/
structure Draft where
  id : Json
  pattern : Json
  substitution : Json := .null
  removeParams : Json := .list []
  enabled : Json := .bool true
  source : Option Text := none
  examples : List Example := []
  deriving DecidableEq, Repr

/-- The items of a value: those of a list, the names of an object, the characters of a text. -/
def itemsOf? : Json → Option (List Json)
  | .list items => some items
  | .object fields => some (fields.map fun (name, _) => .text name)
  | .text s => some (s.map fun c => .text [c])
  | _ => none

namespace Draft

/-- The names of the parameters to strip. A text or an object that is given for them is not kept as it
is: the names are its items, which are the characters of a text and the names of an object. -/
def checkNames (id : Text) (names : Json) : Except RuleError (List Text) :=
  match itemsOf? names with
  | none => .error .notIterable
  | some items =>
      match items.mapM Json.asNonEmptyText? with
      | some names => .ok names
      | none => .error (.invalidRecord (.badParameterName id))

/-- The rule with the given fields. -/
def check (d : Draft) : Except RuleError Rule := do
  let some id := d.id.asNonEmptyText? | throw (.invalidRecord .emptyId)
  let some pattern := d.pattern.asNonEmptyText? | throw (.invalidRecord (.missingPattern id))
  if let .error e := Pattern.read pattern then throw (.ofPattern pattern id e)
  let expands := d.substitution ≠ .null
  if expands ∧ d.removeParams.isTruthy then throw (.invalidRecord (.bothBehaviours id))
  if ¬expands ∧ ¬d.removeParams.isTruthy then throw (.invalidRecord (.noBehaviour id))
  if expands ∧ d.substitution.asText? = none then throw (.invalidRecord (.substitutionNotText id))
  let removeParams ← checkNames id d.removeParams
  let .bool enabled := d.enabled | throw (.invalidRecord (.enabledNotBoolean id))
  return {
    id, pattern, substitution := d.substitution.asText?, removeParams, enabled
    source := d.source, examples := d.examples }

end Draft

def textOrNull : Option Text → Json
  | some s => .text s
  | none => .null

/-- The fields of a rule, to be checked again after a change. -/
def draft (r : Rule) : Draft where
  id := .text r.id
  pattern := .text r.pattern
  substitution := textOrNull r.substitution
  removeParams := .list (r.removeParams.map .text)
  enabled := .bool r.enabled
  source := r.source
  examples := r.examples

/-- The rule under another id. -/
def withId (r : Rule) (id : Json) : Except RuleError Rule := { r.draft with id }.check

/-- The rule with a source if it has none. -/
def tagged (r : Rule) (source : Text) : Except RuleError Rule :=
  if r.source = none then { r.draft with source := some source }.check else .ok r

end Rule
end UrlRules
