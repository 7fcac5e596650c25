import UrlRules.Proofs.Json.Writing
import UrlRules.Proofs.Rule.Check
import UrlRules.Store.Row

/-!
# Rules in rows

A rule is `Storable` if it is right and all its strings are Unicode. It is `Recorded` if lone surrogates stand
only where texts are kept in JSON, in names and examples. Such a rule comes back from the row that was given its
cells as it was, but for where it came from (`toRule_withRule`).
-/
namespace UrlRules

open Text

/-- An example of two texts. -/
def Example.IsUnicode (e : Example) : Prop :=
  ∃ input expected : Text, e = ⟨.text input, .text expected⟩ ∧ input.IsUnicode ∧ expected.IsUnicode

/-- An example of two texts that are read back from JSON. -/
def Example.IsJoined (e : Example) : Prop :=
  ∃ input expected : Text, e = ⟨.text input, .text expected⟩ ∧ input.Joined ∧ expected.Joined

theorem Example.IsUnicode.isJoined {e : Example} (unicode : e.IsUnicode) : e.IsJoined := by
  obtain ⟨input, expected, rfl, first, second⟩ := unicode
  exact ⟨input, expected, rfl, first.joined, second.joined⟩

namespace Rule

/-- A rule that is right, with strings that are Unicode. -/
structure Storable (r : Rule) : Prop where
  valid : r.Valid
  id_unicode : r.id.IsUnicode
  pattern_unicode : r.pattern.IsUnicode
  substitution_unicode : ∀ s ∈ r.substitution, s.IsUnicode
  names_unicode : ∀ name ∈ r.removeParams, name.IsUnicode
  examples_unicode : ∀ e ∈ r.examples, e.IsUnicode

/-- A rule that is right, with strings that come back from its row. -/
structure Recorded (r : Rule) : Prop where
  valid : r.Valid
  id_unicode : r.id.IsUnicode
  pattern_unicode : r.pattern.IsUnicode
  substitution_unicode : ∀ s ∈ r.substitution, s.IsUnicode
  names_joined : ∀ name ∈ r.removeParams, name.Joined
  examples_joined : ∀ e ∈ r.examples, e.IsJoined

/-- The rule without where it came from. -/
def unsourced (r : Rule) : Rule := { r with source := none }

/-- A rule as the store keeps it. -/
structure Kept (r : Rule) : Prop where
  recorded : r.Recorded
  unsourced_eq : r.unsourced = r

variable {r : Rule}

theorem map_unsourced {rules : List Rule} (unsourced : ∀ r ∈ rules, r.source = none) :
    rules.map (·.unsourced) = rules := by
  refine (List.map_congr_left fun r member => ?_).trans (List.map_id' rules)
  rw [Rule.unsourced, ← unsourced r member]

theorem Storable.recorded (storable : r.Storable) : r.Recorded where
  valid := storable.valid
  id_unicode := storable.id_unicode
  pattern_unicode := storable.pattern_unicode
  substitution_unicode := storable.substitution_unicode
  names_joined := fun name member => (storable.names_unicode name member).joined
  examples_joined := fun e member => (storable.examples_unicode e member).isJoined

/-- Whether a rule is enabled and where it came from do not matter. -/
theorem Recorded.relabel (recorded : r.Recorded) (enabled : Bool) (source : Option Text) :
    { r with enabled, source }.Recorded where
  valid :=
    { id_ne_nil := recorded.valid.id_ne_nil
      pattern_ne_nil := recorded.valid.pattern_ne_nil
      pattern_reads := recorded.valid.pattern_reads
      one_behaviour := recorded.valid.one_behaviour
      names_ne_nil := recorded.valid.names_ne_nil }
  id_unicode := recorded.id_unicode
  pattern_unicode := recorded.pattern_unicode
  substitution_unicode := recorded.substitution_unicode
  names_joined := recorded.names_joined
  examples_joined := recorded.examples_joined

theorem Recorded.kept_unsourced (recorded : r.Recorded) : r.unsourced.Kept :=
  ⟨recorded.relabel r.enabled none, rfl⟩

theorem Kept.source (kept : r.Kept) : r.source = none := by
  rw [← kept.unsourced_eq]
  rfl

theorem Kept.withEnabled (kept : r.Kept) (value : Bool) : { r with enabled := value }.Kept := by
  refine ⟨kept.recorded.relabel value r.source, ?_⟩
  rw [← kept.unsourced_eq]
  rfl

theorem storable_letterRule {old new : CodePoint} (reads : ∃ p, Pattern.read [old] = .ok p)
    (first : Text.IsUnicode [old]) (second : Text.IsUnicode [new]) : (letterRule old new).Storable :=
  ⟨valid_letterRule reads, first, first, by simpa [letterRule] using second, by simp [letterRule],
    by simp [letterRule]⟩

end Rule

namespace Row

variable {r : Rule}

/-- Reading what each item was written as gives back the list. -/
theorem mapM_of_each {α β γ ε : Type} (items : List α) (written : α → β) (read : β → Except ε γ)
    (value : α → γ) (each : ∀ item ∈ items, read (written item) = .ok (value item)) :
    (items.map written).mapM read = .ok (items.map value) := by
  induction items with
  | nil => rfl
  | cons item items ih =>
    have first := each item (by simp)
    have others := ih fun other member => each other (by simp [member])
    simp [List.mapM_cons, first, others, bind, Except.bind, pure, Except.pure]

theorem plain_names {names : List Text} (joined : ∀ name ∈ names, name.Joined) :
    (Json.list (names.map .text)).Plain := by
  refine Json.plainItems_iff.mpr fun item member => ?_
  obtain ⟨name, inside, rfl⟩ := List.mem_map.mp member
  exact joined name inside

theorem plain_example {e : Example} (joined : e.IsJoined) : e.toJson.Plain := by
  obtain ⟨input, expected, rfl, first, second⟩ := joined
  have distinct : [Text.of "from", Text.of "to"].Nodup := by decide
  have from_unicode : (Text.of "from").IsUnicode := by decide
  have to_unicode : (Text.of "to").IsUnicode := by decide
  exact ⟨distinct, from_unicode.joined, first, to_unicode.joined, second, trivial⟩

theorem plain_examples {examples : List Example} (joined : ∀ e ∈ examples, e.IsJoined) :
    (Json.list (examples.map Example.toJson)).Plain := by
  refine Json.plainItems_iff.mpr fun item member => ?_
  obtain ⟨e, inside, rfl⟩ := List.mem_map.mp member
  exact plain_example (joined e inside)

theorem exampleOf_toJson (e : Example) : exampleOf e.toJson = .ok e := by
  rfl

theorem examplesOf_toJson (examples : List Example) :
    examplesOf (.list (examples.map Example.toJson)) = .ok examples := by
  have read := mapM_of_each examples Example.toJson exampleOf (fun e => e) fun e _ => exampleOf_toJson e
  simpa [examplesOf, Rule.itemsOf?] using read

theorem jsonOf_compact {v : Json} (plain : v.Plain) : jsonOf (.text v.compact) = .ok v := by
  simp [jsonOf, Json.read_compact plain]

/-- A rule comes back from any row that was given its cells. -/
theorem toRule_withRule (recorded : r.Recorded) {row : Row} (named : row.id = .text r.id) :
    (row.withRule r).toRule = .ok r.unsourced := by
  have examples := jsonOf_compact (plain_examples recorded.examples_joined)
  have names := jsonOf_compact (plain_names recorded.names_joined)
  have checked := Rule.check_draft recorded.valid none
  have drafted : { r.draft with source := none } =
      { id := row.id.toJson
        pattern := (Cell.text r.pattern).toJson
        substitution := (substitutionCell r.substitution).toJson
        removeParams := .list (r.removeParams.map .text)
        enabled := .bool (Cell.integer (if r.enabled then 1 else 0)).isTruthy
        examples := r.examples } := by
    unfold Rule.draft
    rw [named]
    cases r.substitution <;> cases r.enabled <;> rfl
  rw [drafted] at checked
  simp [toRule, withRule, examples, names, examplesOf_toJson, checked, Rule.unsourced, bind,
    Except.bind, pure, Except.pure]

/-- A rule as it is kept is what its row holds. -/
theorem toRule_ofRule (kept : r.Kept) (position : Cell) : (ofRule r position).toRule = .ok r := by
  have read : (ofRule r position).toRule = .ok r.unsourced := toRule_withRule kept.recorded rfl
  rw [read, kept.unsourced_eq]

end Row
end UrlRules
