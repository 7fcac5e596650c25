import UrlRules.Json.Reader
import UrlRules.Json.Writer
import UrlRules.Rule.Wire
import UrlRules.Store.Cell

/-!
# Rows of the table of rules

A row holds a rule with its place in the list. The names of parameters and the examples are JSON.
-/
namespace UrlRules

open Text

structure Row where
  id : Cell
  position : Cell
  pattern : Cell
  substitution : Cell
  removeParams : Cell
  enabled : Cell
  examples : Cell
  deriving DecidableEq, Repr, Inhabited

/-- Why a row is no rule. -/
inductive RowError where
  | notJson (error : Json.ReadError)
  /-- The names or the examples are no text. -/
  | notText
  | examplesNotList
  | exampleNotObject
  | exampleIncomplete
  | rule (error : RuleError)
  deriving DecidableEq, Repr

namespace Row

/-- The texts of a rule that are kept as they are. -/
def textsOf (r : Rule) : List Text := r.pattern :: r.substitution.toList

/-- The first text that cannot be kept, because it has no UTF-8 form. -/
def unencodable? (texts : List Text) : Option Text := texts.find? fun s => !isScalar s

def substitutionCell : Option Text → Cell
  | some s => .text s
  | none => .empty

/-- The cells of a rule in some row. -/
def withRule (row : Row) (r : Rule) : Row :=
  { row with
    pattern := .text r.pattern
    substitution := substitutionCell r.substitution
    removeParams := .text (Json.list (r.removeParams.map .text)).compact
    enabled := .integer (if r.enabled then 1 else 0)
    examples := .text (Json.list (r.examples.map Example.toJson)).compact }

/-- The row of a rule at a position. -/
def ofRule (r : Rule) (position : Cell) : Row :=
  withRule { (default : Row) with id := .text r.id, position := position.inIntegers } r

/-- The JSON value in a cell. -/
def jsonOf : Cell → Except RowError Json
  | .text s =>
      match Json.read s with
      | .ok value => .ok value
      | .error e => .error (.notJson e)
  | _ => .error .notText

/-- An example has a URL and what becomes of it. -/
def exampleOf : Json → Except RowError Example
  | .object fields =>
      match Json.field? fields (Text.of "from"), Json.field? fields (Text.of "to") with
      | some input, some expected => .ok ⟨input, expected⟩
      | _, _ => .error .exampleIncomplete
  | _ => .error .exampleNotObject

def examplesOf (value : Json) : Except RowError (List Example) :=
  match Rule.itemsOf? value with
  | some items => items.mapM exampleOf
  | none => .error .examplesNotList

/-- The rule in a row. -/
def toRule (row : Row) : Except RowError Rule := do
  let examples ← examplesOf (← jsonOf row.examples)
  let removeParams ← jsonOf row.removeParams
  let draft : Rule.Draft :=
    { id := row.id.toJson
      pattern := row.pattern.toJson
      substitution := row.substitution.toJson
      removeParams
      enabled := .bool row.enabled.isTruthy
      examples }
  match draft.check with
  | .ok rule => return rule
  | .error e => throw (.rule e)

/-! ## Columns -/

inductive Column where
  | id
  | position
  | pattern
  | substitution
  | removeParams
  | enabled
  | examples
  deriving DecidableEq, Repr

namespace Column

/-- What a column keeps of a value. -/
def kept (column : Column) (c : Cell) : Cell :=
  match column with
  | .position | .enabled => c.inIntegers
  | _ => c.inTexts

/-- Whether a cell of a column may be empty. -/
def mayBeEmpty : Column → Bool
  | .id | .substitution => true
  | _ => false

end Column

def set (row : Row) (column : Column) (c : Cell) : Row :=
  match column with
  | .id => { row with id := c }
  | .position => { row with position := c }
  | .pattern => { row with pattern := c }
  | .substitution => { row with substitution := c }
  | .removeParams => { row with removeParams := c }
  | .enabled => { row with enabled := c }
  | .examples => { row with examples := c }

end Row
end UrlRules
