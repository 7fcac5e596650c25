import UrlRules.Proofs.Json.Writing
import UrlRules.Proofs.Rule.Format

/-!
# Rules written and read

A rule is `WellTyped` if it is right and its examples are pairs of texts. What is written for such a rule
is read back as the rule, whatever source it is given (`ofJson_toJson`). And whatever is read as a rule is
well typed and has the source it was given (`wellTyped_of_ofJson`).
-/
namespace UrlRules

open Text

/-- An example of two texts. -/
def Example.IsText (e : Example) : Prop :=
  ∃ input expected : Text, e = ⟨.text input, .text expected⟩

namespace Rule

/-- A rule that is right, with examples of two texts each. -/
structure WellTyped (r : Rule) : Prop where
  valid : r.Valid
  examples_text : ∀ e ∈ r.examples, e.IsText

/-- The same rule from somewhere. -/
def fromSource (r : Rule) (source : Option Text) : Rule := { r with source }

variable {r : Rule} {e : Example} {source : Option Text}

/-! ## Where a rule came from and what it is called do not matter -/

theorem Valid.fromSource (valid : r.Valid) (source : Option Text) : (r.fromSource source).Valid where
  id_ne_nil := valid.id_ne_nil
  pattern_ne_nil := valid.pattern_ne_nil
  pattern_reads := valid.pattern_reads
  one_behaviour := valid.one_behaviour
  names_ne_nil := valid.names_ne_nil

theorem Valid.renamed (valid : r.Valid) {id : Text} (nonempty : id ≠ []) :
    { r with id }.Valid where
  id_ne_nil := nonempty
  pattern_ne_nil := valid.pattern_ne_nil
  pattern_reads := valid.pattern_reads
  one_behaviour := valid.one_behaviour
  names_ne_nil := valid.names_ne_nil

theorem WellTyped.fromSource (typed : r.WellTyped) (source : Option Text) :
    (r.fromSource source).WellTyped :=
  ⟨typed.valid.fromSource source, typed.examples_text⟩

/-- A rule takes any other id. -/
theorem withId_text (valid : r.Valid) {id : Text} (nonempty : id ≠ []) :
    r.withId (.text id) = .ok { r with id } :=
  check_draft (valid.renamed nonempty) r.source

/-! ## Reading what is written -/

theorem showsExample_toJson (text : e.IsText) : ShowsExample e.toJson e := by
  obtain ⟨input, expected, rfl⟩ := text
  exact ⟨_, input, expected, rfl, rfl, rfl, rfl⟩

/-- What stands under each name in what is written for a rule. The older name of the template never does. -/
theorem fields_found (r : Rule) :
    Json.field? r.fields (Text.of "id") = some (.text r.id) ∧
    Json.field? r.fields (Text.of "regexFilter") = some (.text r.pattern) ∧
    Json.field? r.fields (Text.of "regexSubstitution") = r.substitution.map .text ∧
    Json.field? r.fields (Text.of "to") = none ∧
    Json.field? r.fields (Text.of "removeParams") =
      (if r.removeParams.isEmpty then none else some (.list (r.removeParams.map .text))) ∧
    Json.field? r.fields (Text.of "enabled") = some (.bool r.enabled) ∧
    Json.field? r.fields (Text.of "test") =
      if r.examples.isEmpty then none else some (.list (r.examples.map Example.toJson)) := by
  obtain ⟨id, pattern, substitution, removeParams, enabled, source, examples⟩ := r
  cases substitution <;> cases removeParams <;> cases examples <;> exact ⟨rfl, rfl, rfl, rfl, rfl, rfl, rfl⟩

/-- The fields that are written for a rule carry it. -/
theorem carry_fields (text : ∀ e ∈ r.examples, e.IsText) : Carry r.fields r := by
  obtain ⟨id, pattern, substitution, older, params, enabled, test⟩ := fields_found r
  have shown : List.Forall₂ ShowsExample (r.examples.map Example.toJson) r.examples := by
    rw [List.forall₂_map_left_iff, List.forall₂_same]
    exact fun e member => showsExample_toJson (text e member)
  exact {
    named := id
    filtered := .own pattern
    substituted := by
      cases given : r.substitution with
      | none => exact .absent (by rw [substitution, given]; rfl) older
      | some template => exact .own (by rw [substitution, given]; rfl)
    params := by
      cases names : r.removeParams with
      | nil => exact .inl ⟨fun value found => by simp [params, names] at found, rfl⟩
      | cons name names' => exact .inr ⟨_, by rw [params, names]; rfl, forall₂_showsName.mpr rfl⟩
    enabled := .inl enabled
    examples := by
      cases given : r.examples with
      | nil => exact .inl ⟨fun value found => by simp [test, given] at found, rfl⟩
      | cons e examples => exact .inr ⟨_, by rw [test, given]; rfl, given ▸ shown⟩ }

/-- What is written for a rule is read back as the rule, from the source that is given. -/
theorem ofJson_toJson (typed : r.WellTyped) (source : Option Text) :
    ofJson r.toJson source = .ok (r.fromSource source) :=
  (carry_fields typed.examples_text).ofJson typed.valid source

/-! ## The text of a rule -/

theorem regular_example (text : e.IsText) : e.toJson.Regular := by
  obtain ⟨input, expected, rfl⟩ := text
  have distinct : [Text.of "from", Text.of "to"].Nodup := by decide
  exact ⟨distinct, trivial, trivial, trivial⟩

/-- The names of all fields, in the order in which they are written. -/
def fieldNames : List Text :=
  [Text.of "id", Text.of "regexFilter"] ++ [Text.of "regexSubstitution"] ++
    [Text.of "removeParams"] ++ [Text.of "enabled"] ++ [Text.of "test"]

theorem names_fields (r : Rule) : (r.fields.map (·.1)).Sublist fieldNames := by
  unfold fields fieldNames
  simp only [List.map_append]
  refine .append (.append (.append (.append (.refl _) ?_) ?_) (.refl _)) ?_
  · cases r.substitution <;> simp
  · split <;> simp
  · split <;> simp

theorem regular_fields (typed : r.WellTyped) : ∀ field ∈ r.fields, field.2.Regular := by
  have names : (Json.list (r.removeParams.map .text)).Regular := Json.regular_map fun _ _ => trivial
  have examples : (Json.list (r.examples.map Example.toJson)).Regular :=
    Json.regular_map fun e inside => regular_example (typed.examples_text e inside)
  intro field member
  unfold fields at member
  simp only [List.mem_append] at member
  rcases member with (((first | substitution) | params) | enabled) | test
  · simp only [List.mem_cons, List.not_mem_nil, or_false] at first
    rcases first with rfl | rfl <;> exact trivial
  · cases given : r.substitution with
    | none => simp [given] at substitution
    | some s =>
      simp only [given, List.mem_singleton] at substitution
      exact substitution ▸ trivial
  · split at params
    · cases params
    · exact List.mem_singleton.mp params ▸ names
  · exact List.mem_singleton.mp enabled ▸ trivial
  · split at test
    · cases test
    · exact List.mem_singleton.mp test ▸ examples

/-- A rule is written without numbers, each field once. -/
theorem regular_toJson (typed : r.WellTyped) : r.toJson.Regular := by
  have distinct : fieldNames.Nodup := by decide
  exact ⟨distinct.sublist (names_fields r), Json.regularFields_iff.mpr (regular_fields typed)⟩

/-! ## What is read is well typed -/

theorem isText_of_showsExample {item : Json} (shown : ShowsExample item e) : e.IsText := by
  obtain ⟨_, input, expected, -, -, -, rfl⟩ := shown
  exact ⟨input, expected, rfl⟩

/-- Whatever is read as a rule is well typed, and comes from the source that is given. -/
theorem wellTyped_of_ofJson {data : Json} (read : ofJson data source = .ok r) :
    r.WellTyped ∧ r.source = source := by
  obtain ⟨⟨fields, rfl, carry⟩, valid, given⟩ := carry_of_ofJson read
  refine ⟨⟨valid, fun e member => ?_⟩, given⟩
  rcases carry.examples with ⟨-, none⟩ | ⟨items, -, shown⟩
  · simp [none] at member
  · obtain ⟨item, -, own⟩ := exists_of_forall₂ shown member
    exact isText_of_showsExample own

end Rule
end UrlRules
