import UrlRules.Rule.Basic

/-!
# Rules in files

A rule is an object with the fields `id`, `regexFilter`, `regexSubstitution` or `removeParams`,
`enabled` and `test`. A reader also takes `from` and `to` for the pattern and the template where
those two are absent.
-/
namespace UrlRules

open Text

def Example.toJson (e : Example) : Json :=
  .object [(Text.of "from", e.input), (Text.of "to", e.expected)]

namespace Rule

/-- The fields of a rule in a file. Where a rule came from is not written. -/
def fields (r : Rule) : List (Text × Json) :=
  [(Text.of "id", .text r.id), (Text.of "regexFilter", .text r.pattern)] ++
    (match r.substitution with
     | some s => [(Text.of "regexSubstitution", .text s)]
     | none => []) ++
    (if r.removeParams.isEmpty then []
     else [(Text.of "removeParams", .list (r.removeParams.map .text))]) ++
    [(Text.of "enabled", .bool r.enabled)] ++
    (if r.examples.isEmpty then []
     else [(Text.of "test", .list (r.examples.map Example.toJson))])

def toJson (r : Rule) : Json := .object r.fields

/-- The value of a field, or of another one where the first is absent. -/
def fieldOr (fields : List (Text × Json)) (name other : String) : Json :=
  ((Json.field? fields (Text.of name)).or (Json.field? fields (Text.of other))).getD .null

/-- An example in a file has two texts. -/
def readExample? : Json → Option Example
  | .object fields =>
      match Json.field? fields (Text.of "from"), Json.field? fields (Text.of "to") with
      | some (.text input), some (.text expected) => some ⟨.text input, .text expected⟩
      | _, _ => none
  | _ => none

/-- The examples in the field `test`, which may be absent or empty. -/
def readExamples (id : Text) (field : Json) : Except RuleError (List Example) :=
  if !field.isTruthy then .ok []
  else
    match itemsOf? field with
    | none => .error .notIterable
    | some items =>
        match items.mapM readExample? with
        | some examples => .ok examples
        | none => .error (.invalidRecord (.badTest id))

/-- The fields of a rule in a file, ready to be checked. -/
def draftOf (data : Json) (source : Option Text) : Except RuleError Draft := do
  let .object fields := data | throw (.invalidRecord .notAnObject)
  let get (name : String) : Json := (Json.field? fields (Text.of name)).getD .null
  let some id := (get "id").asNonEmptyText? | throw (.invalidRecord .missingId)
  let pattern := fieldOr fields "regexFilter" "from"
  if pattern.asNonEmptyText? = none then throw (.invalidRecord (.missingPatternField id))
  let substitution := fieldOr fields "regexSubstitution" "to"
  if substitution ≠ .null ∧ substitution.asText? = none then
    throw (.invalidRecord (.substitutionNotText id))
  let params := get "removeParams"
  let removeParams := if params.isTruthy then params else .list []
  if removeParams.asList? = none then throw (.invalidRecord (.parametersNotList id))
  let examples ← readExamples id (get "test")
  return {
    id := .text id, pattern, substitution, removeParams
    enabled := (Json.field? fields (Text.of "enabled")).getD (.bool true)
    source, examples }

/-- The rule that an object in a file describes. -/
def ofJson (data : Json) (source : Option Text) : Except RuleError Rule := do
  (← draftOf data source).check

end Rule
end UrlRules
