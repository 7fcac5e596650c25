import UrlRules.Proofs.Json.Joined
import UrlRules.Proofs.Rule.Wire

/-!
# The texts of a rule

All texts of a rule that is read stand in what it is read from (`texts_ofJson`), and all texts of what is written for
a rule are those of the rule and names of fields (`texts_toJson`). A rule is `Written` if it is well typed and its
texts are of code points. What holds of the texts of rules and of names of fields holds of those that are written
(`forall_rules`).
-/
namespace UrlRules

open Text

namespace Json

variable {fields : List (Text × Json)} {name : Text} {value : Json}

theorem mem_of_field? (found : field? fields name = some value) : (name, value) ∈ fields := by
  induction fields with
  | nil => cases found
  | cons field fields ih =>
    simp only [field?] at found
    split at found
    next same =>
      obtain rfl := Option.some.inj found
      exact same ▸ List.mem_cons_self ..
    next => exact List.mem_cons_of_mem _ (ih found)

theorem texts_field? (found : field? fields name = some value) : value.texts ⊆ textsOfFields fields :=
  fun _ member => mem_textsOfFields.mpr ⟨_, mem_of_field? found, .inr member⟩

/-- What is read where a field may be absent. -/
theorem texts_getD (fields : List (Text × Json)) (name : Text) :
    ((field? fields name).getD .null).texts ⊆ textsOfFields fields := by
  cases found : field? fields name with
  | none => exact List.nil_subset _
  | some value => exact texts_field? found

end Json

/-- The texts of an example. -/
def Example.texts (e : Example) : List Text := e.input.texts ++ e.expected.texts

namespace Rule

/-- The texts of a rule, wherever it came from. -/
def texts (r : Rule) : List Text :=
  r.id :: r.pattern :: r.substitution.toList ++ r.removeParams ++ r.examples.flatMap Example.texts

/-- A well-typed rule with texts of code points. -/
structure Written (r : Rule) : Prop where
  typed : r.WellTyped
  bounded : ∀ s ∈ r.texts, s.Bounded

variable {r : Rule} {source : Option Text} {data : Json}

theorem Written.fromSource (written : r.Written) (source : Option Text) : (r.fromSource source).Written :=
  ⟨written.typed.fromSource source, written.bounded⟩

/-! ## Reading -/

theorem mem_of_checkNames {id : Text} {items : List Json} {names : List Text}
    (checked : Draft.checkNames id (.list items) = .ok names) : ∀ name ∈ names, Json.text name ∈ items := by
  obtain ⟨rfl, -⟩ := checkNames_list.mp checked
  exact fun name member => List.mem_map_of_mem member

theorem texts_asText? {value : Json} {s : Text} (read : value.asText? = some s) : value.texts = [s] := by
  cases value with
  | text t =>
    obtain rfl := Option.some.inj read
    rfl
  | _ => cases read

theorem texts_given {fields : List (Text × Json)} {name older : String} {value : Json}
    (given : Json.Given fields name older value) : value.texts ⊆ Json.textsOfFields fields := by
  cases given with
  | own found => exact Json.texts_field? found
  | older absent found => exact Json.texts_field? found
  | absent => exact List.nil_subset _

theorem texts_showsExample {item : Json} {e : Example} (shown : ShowsExample item e) : e.texts ⊆ item.texts := by
  obtain ⟨fields, input, expected, rfl, first, second, rfl⟩ := shown
  exact List.append_subset.mpr ⟨Json.texts_field? first, Json.texts_field? second⟩

/-- All texts of a rule stand in the fields that carry it. -/
theorem Carry.texts {fields : List (Text × Json)} (carry : Carry fields r) : r.texts ⊆ Json.textsOfFields fields := by
  intro s member
  simp only [Rule.texts, List.mem_append, List.mem_cons, List.mem_flatMap] at member
  rcases member with ((rfl | rfl | template) | name) | ⟨e, inside, own⟩
  · exact Json.texts_field? carry.named (List.mem_singleton_self _)
  · exact texts_given carry.filtered (List.mem_singleton_self _)
  · have given := carry.substituted
    rw [Option.mem_toList.mp template] at given
    exact texts_given given (List.mem_singleton_self _)
  · rcases carry.params with ⟨-, none⟩ | ⟨items, found, shown⟩
    · simp [none] at name
    · rw [forall₂_showsName.mp shown] at found
      exact Json.texts_field? found (Json.mem_textsOfItems.mpr ⟨_, List.mem_map_of_mem name, List.mem_singleton_self _⟩)
  · rcases carry.examples with ⟨-, none⟩ | ⟨items, found, shown⟩
    · simp [none] at inside
    · obtain ⟨item, among, shows⟩ := exists_of_forall₂ shown inside
      exact Json.texts_field? found (Json.mem_textsOfItems.mpr ⟨item, among, texts_showsExample shows own⟩)

/-- All texts of a rule that is read stand in what it is read from. -/
theorem texts_ofJson (read : ofJson data source = .ok r) : r.texts ⊆ data.texts := by
  obtain ⟨⟨fields, rfl, carry⟩, -⟩ := carry_of_ofJson read
  exact carry.texts

/-! ## Writing -/

/-- The names of the fields of an example. -/
def exampleNames : List Text := [Text.of "from", Text.of "to"]

/-- All texts of what is written for a rule are those of the rule and names of fields. -/
theorem texts_toJson (r : Rule) : r.toJson.texts ⊆ r.texts ++ fieldNames ++ exampleNames := by
  have own {s : Text} (member : s ∈ r.texts) : s ∈ r.texts ++ fieldNames ++ exampleNames := by simp [member]
  intro s member
  obtain ⟨field, inside, named | value⟩ := Json.mem_textsOfFields.mp member
  · have among := (names_fields r).subset (List.mem_map_of_mem (f := (·.1)) inside)
    simp [named, among]
  · unfold fields at inside
    simp only [List.mem_append] at inside
    rcases inside with (((first | substitution) | params) | enabled) | test
    · simp only [List.mem_cons, List.not_mem_nil, or_false] at first
      rcases first with rfl | rfl
      · exact own (by simp [List.mem_singleton.mp value, texts])
      · exact own (by simp [List.mem_singleton.mp value, texts])
    · cases given : r.substitution with
      | none => simp [given] at substitution
      | some template =>
        simp only [given, List.mem_singleton] at substitution
        rw [substitution] at value
        exact own (by simp [List.mem_singleton.mp value, texts, given])
    · split at params
      · cases params
      · rw [List.mem_singleton.mp params] at value
        obtain ⟨item, listed, written⟩ := Json.mem_textsOfItems.mp value
        obtain ⟨name, among, rfl⟩ := List.mem_map.mp listed
        exact own (by simp [List.mem_singleton.mp written, texts, among])
    · rw [List.mem_singleton.mp enabled] at value
      cases value
    · split at test
      · cases test
      · rw [List.mem_singleton.mp test] at value
        obtain ⟨item, listed, written⟩ := Json.mem_textsOfItems.mp value
        obtain ⟨e, among, rfl⟩ := List.mem_map.mp listed
        obtain ⟨part, half, named | inner⟩ := Json.mem_textsOfFields.mp written
        · simp only [List.mem_cons, List.not_mem_nil, or_false] at half
          rcases half with rfl | rfl <;> simp [named, exampleNames]
        · refine own (List.mem_append_right _ (List.mem_flatMap.mpr ⟨e, among, ?_⟩))
          simp only [List.mem_cons, List.not_mem_nil, or_false] at half
          rcases half with rfl | rfl
          · exact List.mem_append_left _ inner
          · exact List.mem_append_right _ inner

/-- What holds of all names of fields and of the texts of rules holds of those of what is written for them. -/
theorem forall_rules {P : Text → Prop} {rules : List Rule} (names : ∀ s ∈ fieldNames ++ exampleNames, P s)
    (each : ∀ r ∈ rules, ∀ s ∈ r.texts, P s) : ∀ s ∈ Json.textsOfItems (rules.map toJson), P s := by
  intro s member
  obtain ⟨item, listed, own⟩ := Json.mem_textsOfItems.mp member
  obtain ⟨r, among, rfl⟩ := List.mem_map.mp listed
  rcases List.mem_append.mp (texts_toJson r own) with first | last
  · rcases List.mem_append.mp first with text | name
    · exact each r among s text
    · exact names s (by simp [name])
  · exact names s (by simp [last])

end Rule
end UrlRules
