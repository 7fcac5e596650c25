import UrlRules.Proofs.Rule.Texts
import UrlRules.Proofs.Store.RowCodec

/-!
# Rules that are recorded

A written rule whose texts are all joined is recorded where the database takes it (`recorded_of_joined`). Whatever
its texts are, it has the row of a recorded rule, that with its pairs joined, since names and examples are kept in
ASCII (`recorded_joined`, `withRule_joined`).
-/
namespace UrlRules

open Text

namespace Json

/-- A value with its pairs joined if it is a text. -/
def joinText : Json → Json
  | .text s => .text s.joinPairs
  | value => value

theorem compact_joinText (value : Json) : value.joinText.compact = value.compact := by
  cases value with
  | text s => simp only [joinText, compact, scalarText, writeText, flatMap_joinPairs]
  | _ => rfl

/-- Lists with items that are written in the same way are written in the same way. -/
theorem compact_list_map {α : Type} {items : List α} {f g : α → Json}
    (same : ∀ item ∈ items, (f item).compact = (g item).compact) :
    (Json.list (items.map f)).compact = (Json.list (items.map g)).compact := by
  have rest (items : List α) (same : ∀ item ∈ items, (f item).compact = (g item).compact) :
      compactItems (items.map f) = compactItems (items.map g) := by
    induction items with
    | nil => rfl
    | cons item items ih =>
      obtain ⟨own, others⟩ := List.forall_mem_cons.mp same
      rw [List.map_cons, List.map_cons, compactItems, compactItems, own, ih others]
  cases items with
  | nil => rfl
  | cons item items =>
    obtain ⟨own, others⟩ := List.forall_mem_cons.mp same
    rw [List.map_cons, List.map_cons, compact, compact, own, rest items others]

end Json

/-- The example with its pairs joined. -/
def Example.joined (e : Example) : Example := ⟨e.input.joinText, e.expected.joinText⟩

namespace Rule

/-- The rule with its pairs joined where texts are kept in JSON, in names and examples. -/
def joined (r : Rule) : Rule :=
  { r with removeParams := r.removeParams.map joinPairs, examples := r.examples.map Example.joined }

variable {r : Rule}

theorem written_of_joined (typed : r.WellTyped) (joined : Json.AllJoined r.texts) : r.Written :=
  ⟨typed, fun s member => (joined s member).bounded⟩

theorem id_mem_texts (r : Rule) : r.id ∈ r.texts := by simp [texts]

theorem textsOf_subset (r : Rule) : Row.textsOf r ⊆ r.texts := by
  intro s member
  rcases List.mem_cons.mp member with rfl | template
  · simp [texts]
  · simp [texts, List.mem_append, template]

theorem name_mem_texts {name : Text} (member : name ∈ r.removeParams) : name ∈ r.texts := by simp [texts, member]

theorem example_subset_texts {e : Example} (member : e ∈ r.examples) : e.texts ⊆ r.texts :=
  fun _ own => List.mem_append_right _ (List.mem_flatMap.mpr ⟨e, member, own⟩)

section Encodable

variable (named : isScalar r.id = true) (encodable : Row.unencodable? (Row.textsOf r) = none)
include named encodable

theorem Written.unicode (written : r.Written) : r.id.IsUnicode ∧ ∀ s ∈ Row.textsOf r, s.IsUnicode := by
  refine ⟨(written.bounded _ (id_mem_texts r)).unicode named, fun s member => ?_⟩
  refine (written.bounded s (textsOf_subset r member)).unicode ?_
  simpa using List.find?_eq_none.mp encodable s member

/-- A rule whose texts are joined is recorded as it is. -/
theorem recorded_of_joined (typed : r.WellTyped) (joined : Json.AllJoined r.texts) : r.Recorded := by
  obtain ⟨id, texts⟩ := (written_of_joined typed joined).unicode named encodable
  refine ⟨typed.valid, id, texts _ (by simp [Row.textsOf]),
    fun s given => texts s (List.mem_cons_of_mem _ (Option.mem_toList.mpr given)),
    fun name member => joined name (name_mem_texts member), fun e member => ?_⟩
  obtain ⟨input, expected, rfl⟩ := typed.examples_text e member
  have own := example_subset_texts member
  exact ⟨input, expected, rfl, joined input (own (by simp [Example.texts, Json.texts])),
    joined expected (own (by simp [Example.texts, Json.texts]))⟩

/-- A written rule is recorded with its pairs joined. -/
theorem recorded_joined (written : r.Written) : r.joined.Recorded := by
  obtain ⟨id, texts⟩ := written.unicode named encodable
  have valid := written.typed.valid
  refine ⟨⟨valid.id_ne_nil, valid.pattern_ne_nil, valid.pattern_reads, ?_, ?_⟩, id,
    texts r.pattern (by simp [Row.textsOf]),
    fun s given => texts s (List.mem_cons_of_mem _ (Option.mem_toList.mpr given)), ?_, ?_⟩
  · exact valid.one_behaviour.trans List.map_eq_nil_iff.symm
  · refine List.forall_mem_map.mpr fun name member => ?_
    exact fun empty => valid.names_ne_nil name member (joinPairs_eq_nil_iff.mp empty)
  · exact List.forall_mem_map.mpr fun name member => joined_joinPairs (written.bounded name (name_mem_texts member))
  · refine List.forall_mem_map.mpr fun e member => ?_
    obtain ⟨input, expected, rfl⟩ := written.typed.examples_text e member
    have own := example_subset_texts member
    exact ⟨input.joinPairs, expected.joinPairs, rfl,
      joined_joinPairs (written.bounded _ (own (by simp [Example.texts, Json.texts]))),
      joined_joinPairs (written.bounded _ (own (by simp [Example.texts, Json.texts])))⟩

end Encodable

/-- The row of a rule is that of the rule with its pairs joined. -/
theorem withRule_joined (r : Rule) (row : Row) : row.withRule r.joined = row.withRule r := by
  have names : (Json.list (r.joined.removeParams.map .text)).compact =
      (Json.list (r.removeParams.map .text)).compact := by
    rw [joined, List.map_map]
    exact Json.compact_list_map fun name _ => Json.compact_joinText (.text name)
  have examples : (Json.list (r.joined.examples.map Example.toJson)).compact =
      (Json.list (r.examples.map Example.toJson)).compact := by
    rw [joined, List.map_map]
    refine Json.compact_list_map fun e _ => ?_
    simp [Example.joined, Example.toJson, Json.compact, Json.compactFields, Json.compact_joinText]
  simp only [Row.withRule, names, examples]
  rfl

/-- The texts of a recorded rule are joined already. -/
theorem Recorded.joined_eq (recorded : r.Recorded) : r.joined = r := by
  have names : r.removeParams.map joinPairs = r.removeParams :=
    (List.map_congr_left fun name member => (recorded.names_joined name member).joinPairs).trans (List.map_id' _)
  have examples : r.examples.map Example.joined = r.examples := by
    refine (List.map_congr_left fun e member => ?_).trans (List.map_id' _)
    obtain ⟨input, expected, rfl, first, second⟩ := recorded.examples_joined e member
    rw [Example.joined, Json.joinText, Json.joinText, first.joinPairs, second.joinPairs]
  rw [joined, names, examples]

/-- What is recorded is written. -/
theorem Recorded.written (recorded : r.Recorded) : r.Written := by
  refine ⟨⟨recorded.valid, fun e member => ?_⟩, fun s member => ?_⟩
  · obtain ⟨input, expected, rfl, -, -⟩ := recorded.examples_joined e member
    exact ⟨input, expected, rfl⟩
  · simp only [texts, List.mem_append, List.mem_cons, List.mem_flatMap] at member
    rcases member with ((rfl | rfl | template) | name) | ⟨e, inside, own⟩
    · exact recorded.id_unicode.bounded
    · exact recorded.pattern_unicode.bounded
    · exact (recorded.substitution_unicode s (Option.mem_toList.mp template)).bounded
    · exact (recorded.names_joined s name).bounded
    · obtain ⟨input, expected, rfl, first, second⟩ := recorded.examples_joined e inside
      rcases List.mem_append.mp own with half | half
      · rw [List.mem_singleton.mp half]
        exact first.bounded
      · rw [List.mem_singleton.mp half]
        exact second.bounded

end Rule
end UrlRules
