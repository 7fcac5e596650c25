import UrlRules.Console.Markup
import UrlRules.Json.Basic

/-!
# Output

What a program says is markup in lines, tables and frames. What is shown of it, before it is laid out, has
no tags.
-/
namespace UrlRules

/-- A part of what is said, as markup. -/
inductive Message where
  | line (markup : Text)
  | value (data : Json)
  | table (title : Text) (columns : List Text) (rows : List (List Text))
  | panel (title markup : Text)
  deriving DecidableEq, Repr

/-- What is shown of a message. -/
inductive Output where
  | line (text : Text)
  | value (data : Json)
  | table (title : Text) (columns : List Text) (rows : List (List Text))
  | panel (title text : Text)
  deriving DecidableEq, Repr

namespace Message

def render : Message → Except Markup.Error Output
  | .line markup => do return .line (← Markup.render markup)
  | .value data => .ok (.value data)
  | .table title columns rows => do
      return .table (← Markup.render title) columns (← rows.mapM fun row => row.mapM Markup.render)
  | .panel title markup => do return .panel title (← Markup.render markup)

/-- What is shown of messages up to the first that is no markup, and what is wrong with that one. -/
def renderAll : List Message → List Output × Option Markup.Error
  | [] => ([], none)
  | m :: messages =>
      match m.render with
      | .error e => ([], some e)
      | .ok output =>
          let (outputs, error) := renderAll messages
          (output :: outputs, error)

end Message
end UrlRules
