import UrlRules.Number.Binary64
import UrlRules.Text.Basic

/-!
# JSON values

An object keeps its fields in order of first appearance, and each name once: writing a name again
replaces the value in place.
-/
namespace UrlRules

inductive Json where
  | null
  | bool (b : Bool)
  | int (n : Int)
  | float (x : Binary64)
  | text (s : Text)
  | list (items : List Json)
  | object (fields : List (Text × Json))
  deriving Repr, Inhabited

namespace Json

mutual

/-- Structural equality. -/
def same : Json → Json → Bool
  | .null, .null => true
  | .bool a, .bool b => a == b
  | .int a, .int b => a == b
  | .float a, .float b => a == b
  | .text a, .text b => a == b
  | .list a, .list b => sameItems a b
  | .object a, .object b => sameFields a b
  | _, _ => false

def sameItems : List Json → List Json → Bool
  | [], [] => true
  | a :: as, b :: bs => same a b && sameItems as bs
  | _, _ => false

def sameFields : List (Text × Json) → List (Text × Json) → Bool
  | [], [] => true
  | (k, a) :: as, (l, b) :: bs => k == l && same a b && sameFields as bs
  | _, _ => false

end

mutual

theorem same_iff : ∀ a b : Json, same a b = true ↔ a = b
  | .null, b => by cases b <;> simp [same]
  | .bool _, b => by cases b <;> simp [same]
  | .int _, b => by cases b <;> simp [same]
  | .float _, b => by cases b <;> simp [same]
  | .text _, b => by cases b <;> simp [same]
  | .list as, b => by
      cases b with
      | list bs => simp [same, sameItems_iff as bs]
      | _ => simp [same]
  | .object as, b => by
      cases b with
      | object bs => simp [same, sameFields_iff as bs]
      | _ => simp [same]

theorem sameItems_iff : ∀ as bs : List Json, sameItems as bs = true ↔ as = bs
  | [], bs => by cases bs <;> simp [sameItems]
  | a :: as, bs => by
      cases bs with
      | nil => simp [sameItems]
      | cons b bs => simp [sameItems, same_iff a b, sameItems_iff as bs]

theorem sameFields_iff : ∀ as bs : List (Text × Json), sameFields as bs = true ↔ as = bs
  | [], bs => by cases bs <;> simp [sameFields]
  | (k, a) :: as, bs => by
      cases bs with
      | nil => simp [sameFields]
      | cons b bs =>
          obtain ⟨l, b⟩ := b
          simp [sameFields, same_iff a b, sameFields_iff as bs]

end

instance : DecidableEq Json := fun a b => decidable_of_iff _ (same_iff a b)

/-- Sets a field: in place if the name is there already, else at the end. -/
def setField (fields : List (Text × α)) (name : Text) (value : α) : List (Text × α) :=
  match fields with
  | [] => [(name, value)]
  | (k, v) :: rest => if k = name then (k, value) :: rest else (k, v) :: setField rest name value

/-- The fields written one after the other. -/
def ofWrites (writes : List (Text × α)) : List (Text × α) :=
  writes.foldl (fun fields (name, value) => setField fields name value) []

/-- The value of a field. -/
def field? (fields : List (Text × α)) (name : Text) : Option α :=
  match fields with
  | [] => none
  | (k, v) :: rest => if k = name then some v else field? rest name

/-- Whether a value counts as given: not null, false, zero or empty. -/
def isTruthy : Json → Bool
  | .null => false
  | .bool b => b
  | .int n => n != 0
  | .float x => !x.isZero
  | .text s => !s.isEmpty
  | .list items => !items.isEmpty
  | .object fields => !fields.isEmpty

def asText? : Json → Option Text
  | .text s => some s
  | _ => none

/-- The text of a value that is a text other than the empty one. -/
def asNonEmptyText? : Json → Option Text
  | .text (c :: s) => some (c :: s)
  | _ => none

def asList? : Json → Option (List Json)
  | .list items => some items
  | _ => none

end Json
end UrlRules
