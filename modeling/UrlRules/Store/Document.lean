import UrlRules.Document.Import
import UrlRules.Store.Basic

/-!
# Stores as documents

What is committed to a store can be kept as a document with its rules, in their order.
-/
namespace UrlRules.Store

/-- A closed store of the usual capacity that keeps rules in their order. -/
def ofRules (rules : List Rule) : Store :=
  let rows := rules.mapIdx fun i rule => Row.ofRule rule (.integer i)
  ⟨.database, false, true, rows, rows, .usual⟩

/-- The rules that are committed, as a document. -/
def document (store : Store) : Except Error Text := do
  return UrlRules.Document.textOfRules (← rulesOf store.saved)

/-- The store that a document keeps. -/
def ofDocument? (text : Text) : Option Store :=
  match Json.read text with
  | .error _ => none
  | .ok data => ((UrlRules.Document.parse data none true).toOption).map ofRules

end UrlRules.Store
