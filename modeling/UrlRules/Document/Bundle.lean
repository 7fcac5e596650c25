import UrlRules.Document.Import

/-!
# Bundles

A bundle is a document with rules that also names and describes them. Its rules came from somewhere,
which is kept as it is written.
-/
namespace UrlRules

open Text

structure Bundle where
  name : Json
  description : Json
  rules : List Rule
  source : Json
  schema : Json
  deriving DecidableEq, Repr

namespace Bundle

/-- The schema that bundles name unless they say otherwise. -/
def defaultSchema : Text := "./schema.json"

/-- A bundle with the default schema. -/
def make (name description : Text) (rules : List Rule) (source : Json) : Bundle :=
  ⟨.text name, .text description, rules, source, .text defaultSchema⟩

def fields (b : Bundle) : List (Text × Json) :=
  [(Text.of "$schema", b.schema), (Text.of "name", b.name),
    (Text.of "description", b.description)] ++
    (if b.source.isTruthy then [(Text.of "source", b.source)] else []) ++
    [(Text.of "rules", .list (b.rules.map Rule.toJson))]

def toJson (b : Bundle) : Json := .object b.fields

def text (b : Bundle) : Text := b.toJson.document

/-- A descriptive field as text. -/
def shown (fields : List (Text × Json)) (name : String) (default : Text) : Json :=
  match Json.field? fields (Text.of name) with
  | some value => .text value.display
  | none => .text default

/-- The bundle in a document. `stem` names one that has no name. -/
def ofJson (data : Json) (stem : Text) (source : Option Text) (unique : Bool) :
    Except Document.Error Bundle :=
  match Document.parse data source unique with
  | .error e => .error e
  | .ok rules =>
      let fields :=
        match data with
        | .object fields => fields
        | _ => []
      .ok {
        name := shown fields "name" stem
        description := shown fields "description" []
        rules
        source := (Json.field? fields (Text.of "source")).getD .null
        schema := shown fields "$schema" defaultSchema }

end Bundle
end UrlRules
