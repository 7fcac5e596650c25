import UrlRules.Document.Bundle
import UrlRules.Proofs.Document.Import
import UrlRules.Proofs.Rule.Texts

/-!
# Bundles written and read

The document of a bundle is regular if its fields are (`Bundle.regular_toJson`), and its texts are those of the bundle
and names of fields (`Bundle.texts_toJson`). A `Textual` bundle is read from its document as it was, but for where its
rules came from (`Bundle.Textual.ofJson_toJson`), which its document does not say (`Bundle.text_fromSource`).
-/
namespace UrlRules

open Text

namespace Bundle

/-- A bundle of well-typed rules whose other fields are regular values. -/
structure Regular (b : Bundle) : Prop where
  schema : b.schema.Regular
  name : b.name.Regular
  description : b.description.Regular
  source : b.source.Regular
  rules : ∀ r ∈ b.rules, r.WellTyped

/-- The texts of a bundle, wherever its rules came from. -/
def texts (b : Bundle) : List Text :=
  b.schema.texts ++ b.name.texts ++ b.description.texts ++ b.source.texts ++ b.rules.flatMap Rule.texts

/-- A bundle of well-typed rules with texts for a schema, a name and a description, and with no source or a text that
is not empty. All texts are Unicode. -/
structure Textual (b : Bundle) : Prop where
  schema : ∃ s, b.schema = .text s
  name : ∃ s, b.name = .text s
  description : ∃ s, b.description = .text s
  source : b.source = .null ∨ ∃ s ≠ [], b.source = .text s
  rules : ∀ r ∈ b.rules, r.WellTyped
  unicode : ∀ s ∈ b.texts, s.IsUnicode

/-- The same bundle with all rules from one source. -/
def fromSource (b : Bundle) (source : Option Text) : Bundle := { b with rules := b.rules.map (·.fromSource source) }

variable {b : Bundle} {name description : Text} {rules : List Rule} {origin : Json}

theorem regular_make (typed : ∀ r ∈ rules, r.WellTyped) (regular : origin.Regular) :
    (make name description rules origin).Regular :=
  ⟨trivial, trivial, trivial, regular, typed⟩

theorem bounded_make (named : name.Bounded) (described : description.Bounded)
    (located : ∀ s ∈ origin.texts, s.Bounded) (written : ∀ r ∈ rules, r.Written) :
    ∀ s ∈ (make name description rules origin).texts, s.Bounded := by
  have schema : defaultSchema.Bounded := by decide
  intro s member
  simp only [texts, make, Json.texts, List.mem_append, List.mem_cons, List.not_mem_nil, or_false, List.mem_flatMap]
    at member
  rcases member with (((rfl | rfl) | rfl) | place) | ⟨r, inside, own⟩
  · exact schema
  · exact named
  · exact described
  · exact located s place
  · exact (written r inside).bounded s own

theorem Textual.regular (textual : b.Textual) : b.Regular := by
  obtain ⟨⟨schema, shown⟩, ⟨name, named⟩, ⟨description, described⟩, located, typed, -⟩ := textual
  refine ⟨shown ▸ trivial, named ▸ trivial, described ▸ trivial, ?_, typed⟩
  rcases located with none | ⟨s, -, given⟩
  · exact none ▸ trivial
  · exact given ▸ trivial

end Bundle

/-! ## The document of a bundle -/

namespace Document

/-- The names of all fields of a bundle, in the order in which they are written. -/
def bundleNames : List Text :=
  [Text.of "$schema", Text.of "name", Text.of "description"] ++ [Text.of "source"] ++ [Text.of "rules"]

theorem names_bundle (bundle : Bundle) : (bundle.fields.map (·.1)).Sublist bundleNames := by
  unfold Bundle.fields bundleNames
  simp only [List.map_append]
  refine .append (.append (.refl _) ?_) (.refl _)
  split <;> simp

end Document

namespace Bundle

open Document (bundleNames names_bundle)

variable {b : Bundle}

/-- What is written in the fields of a bundle. -/
theorem values_fields {field : Text × Json} (member : field ∈ b.fields) :
    field.2 ∈ [b.schema, b.name, b.description, b.source] ∨ field.2 = .list (b.rules.map Rule.toJson) := by
  simp only [fields, List.mem_append, List.mem_cons, List.not_mem_nil, or_false] at member
  rcases member with ((rfl | rfl | rfl) | given) | rfl
  · simp
  · simp
  · simp
  · split at given
    · simp [List.mem_singleton.mp given]
    · cases given
  · exact .inr rfl

/-- What stands under each name in what is written for a bundle. -/
theorem fields_found (b : Bundle) :
    Json.field? b.fields (Text.of "$schema") = some b.schema ∧
    Json.field? b.fields (Text.of "name") = some b.name ∧
    Json.field? b.fields (Text.of "description") = some b.description ∧
    Json.field? b.fields (Text.of "source") = (if b.source.isTruthy then some b.source else none) ∧
    Json.field? b.fields (Text.of "rules") = some (.list (b.rules.map Rule.toJson)) := by
  unfold fields
  split <;> exact ⟨rfl, rfl, rfl, rfl, rfl⟩

theorem regular_toJson (regular : b.Regular) : b.toJson.Regular := by
  have distinct : bundleNames.Nodup := by decide
  refine ⟨distinct.sublist (names_bundle b), Json.regularFields_iff.mpr fun field member => ?_⟩
  rcases values_fields member with own | rules
  · simp only [List.mem_cons, List.not_mem_nil, or_false] at own
    rcases own with same | same | same | same <;> rw [same]
    · exact regular.schema
    · exact regular.name
    · exact regular.description
    · exact regular.source
  · rw [rules]
    exact Json.regular_map fun r inside => Rule.regular_toJson (regular.rules r inside)

/-- All texts of what is written for a bundle are those of the bundle and names of fields. -/
theorem texts_toJson (b : Bundle) :
    b.toJson.texts ⊆ b.texts ++ (bundleNames ++ Rule.fieldNames ++ Rule.exampleNames) := by
  intro s member
  obtain ⟨field, inside, named | value⟩ := Json.mem_textsOfFields.mp member
  · have among := (names_bundle b).subset (List.mem_map_of_mem (f := (·.1)) inside)
    simp [named, among]
  · rcases values_fields inside with own | rules
    · simp only [List.mem_cons, List.not_mem_nil, or_false] at own
      rcases own with same | same | same | same <;> simp [texts, ← same, value]
    · rw [rules] at value
      obtain ⟨item, listed, own⟩ := Json.mem_textsOfItems.mp value
      obtain ⟨r, among, rfl⟩ := List.mem_map.mp listed
      have written := Rule.texts_toJson r own
      simp only [List.mem_append] at written ⊢
      rcases written with (text | name) | name
      · exact .inl (List.mem_append_right _ (List.mem_flatMap.mpr ⟨r, among, text⟩))
      · exact .inr (.inl (.inr name))
      · exact .inr (.inr name)

/-- What holds of all names of fields and of the texts of a bundle holds of those of its document. -/
theorem forall_toJson {P : Text → Prop} (names : ∀ s ∈ bundleNames ++ Rule.fieldNames ++ Rule.exampleNames, P s)
    (each : ∀ s ∈ b.texts, P s) : ∀ s ∈ b.toJson.texts, P s := by
  intro s member
  rcases List.mem_append.mp (texts_toJson b member) with own | name
  · exact each s own
  · exact names s name

theorem bounded_toJson (bounded : ∀ s ∈ b.texts, s.Bounded) : ∀ s ∈ b.toJson.texts, s.Bounded :=
  forall_toJson (by decide) bounded

/-- The text of a bundle is Unicode if its texts are. -/
theorem Textual.unicode_text (textual : b.Textual) : b.text.IsUnicode := by
  refine Json.forall_document (regular_toJson textual.regular) (fun c ascii => ?_)
    (forall_toJson (P := IsUnicode) (by decide) textual.unicode)
  exact isScalarValue_of_apart (.inl (Nat.lt_trans ascii (by decide)))

/-! ## Reading a bundle -/

/-- Where the rules of a bundle came from is not written. -/
theorem text_fromSource (b : Bundle) (source : Option Text) : (b.fromSource source).text = b.text := by
  simp only [text, toJson, fields, fromSource, List.map_map]
  rfl

end Bundle

namespace Document

theorem entriesOf_bundle (bundle : Bundle) :
    entriesOf bundle.toJson = .ok (bundle.rules.map Rule.toJson) := by
  obtain ⟨-, -, -, -, rules⟩ := bundle.fields_found
  simp [entriesOf, Bundle.toJson, rules]

end Document

namespace Bundle

variable {b : Bundle} {unique : Bool}

/-- A text is shown as it is. -/
theorem shown_text {fields : List (Text × Json)} {name : String} {s : Text}
    (found : Json.field? fields (Text.of name) = some (.text s)) (default : Text) :
    shown fields name default = .text s := by
  rw [shown, found]
  rfl

/-- A bundle is read from its document as it was, with its rules from the source that is given. -/
theorem Textual.ofJson_toJson (textual : b.Textual) (stem : Text) (source : Option Text)
    (distinct : unique → (b.rules.map (·.id)).Nodup) :
    ofJson b.toJson stem source unique = .ok (b.fromSource source) := by
  have parsed : Document.parse b.toJson source unique = .ok (b.rules.map (·.fromSource source)) :=
    Document.parse_list textual.rules source distinct (Document.entriesOf_bundle b)
  obtain ⟨schema, name, description, origin, -⟩ := b.fields_found
  obtain ⟨s, isSchema⟩ := textual.schema
  obtain ⟨n, isName⟩ := textual.name
  obtain ⟨d, isDescription⟩ := textual.description
  rw [isSchema] at schema
  rw [isName] at name
  rw [isDescription] at description
  -- A source that is left out is read as null, which is what it was.
  have located : (Json.field? b.fields (Text.of "source")).getD .null = b.source := by
    rw [origin]
    rcases textual.source with none | ⟨t, nonempty, given⟩
    · simp [none, Json.isTruthy]
    · simp [given, Json.isTruthy, nonempty]
  unfold ofJson
  rw [parsed]
  simp only [toJson, shown_text schema, shown_text name, shown_text description, located]
  rw [fromSource, isSchema, isName, isDescription]

end Bundle
end UrlRules
