import UrlRules.Proofs.Results
import UrlRules.Rule.Basic

/-!
# Checking a rule again

A rule that is right passes its check once more, wherever it is said to come from. `check_draft` is what
tagging a rule, giving it another id and reading it from a row rest on. And whatever passes the check is
right (`valid_of_check`).
-/
namespace UrlRules

open Text

theorem Json.asNonEmptyText?_text {s : Text} (nonempty : s ≠ []) :
    (Json.text s).asNonEmptyText? = some s := by
  cases s with
  | nil => exact absurd rfl nonempty
  | cons c s => rfl

theorem Json.ne_nil_of_asNonEmptyText? {value : Json} {s : Text}
    (read : value.asNonEmptyText? = some s) : s ≠ [] := by
  unfold asNonEmptyText? at read
  split at read
  · cases read
    simp
  · cases read

theorem Json.eq_text_of_asNonEmptyText? {value : Json} {s : Text}
    (read : value.asNonEmptyText? = some s) : value = .text s := by
  unfold asNonEmptyText? at read
  split at read
  · cases read
    rfl
  · cases read

theorem Json.isSome_asText?_iff {value : Json} (text : ¬(value ≠ .null ∧ value.asText? = none)) :
    value.asText?.isSome ↔ value ≠ .null := by
  constructor
  · rintro some rfl
    cases some
  · intro given
    exact Option.isSome_iff_ne_none.mpr fun none => text ⟨given, none⟩

namespace Rule

variable {r : Rule}

/-- Names are read from a list of texts that are not empty. -/
theorem mapM_asNonEmptyText? {items : List Json} {names : List Text} :
    items.mapM Json.asNonEmptyText? = some names ↔
      items = names.map .text ∧ ∀ name ∈ names, name ≠ [] := by
  rw [mapM_eq_some]
  constructor
  · intro read
    induction read with
    | nil => exact ⟨rfl, by simp⟩
    | cons first _ ih =>
      obtain ⟨rfl, nonempty⟩ := ih
      exact ⟨by rw [Json.eq_text_of_asNonEmptyText? first, List.map_cons],
        List.forall_mem_cons.mpr ⟨Json.ne_nil_of_asNonEmptyText? first, nonempty⟩⟩
  · rintro ⟨rfl, nonempty⟩
    rw [List.forall₂_map_left_iff, List.forall₂_same]
    exact fun name member => Json.asNonEmptyText?_text (nonempty name member)

theorem checkNames_list {id : Text} {items : List Json} {names : List Text} :
    Draft.checkNames id (.list items) = .ok names ↔
      items = names.map .text ∧ ∀ name ∈ names, name ≠ [] := by
  rw [← mapM_asNonEmptyText?]
  cases read : items.mapM Json.asNonEmptyText? <;> simp [Draft.checkNames, itemsOf?, read]

theorem check_draft (valid : r.Valid) (source : Option Text) :
    { r.draft with source }.check = .ok { r with source } := by
  obtain ⟨p, reads⟩ := valid.pattern_reads
  have id := Json.asNonEmptyText?_text valid.id_ne_nil
  have pattern := Json.asNonEmptyText?_text valid.pattern_ne_nil
  have names : Draft.checkNames r.id (.list (r.removeParams.map .text)) = .ok r.removeParams :=
    checkNames_list.mpr ⟨rfl, valid.names_ne_nil⟩
  have one := valid.one_behaviour
  unfold Draft.check draft
  simp only [id, pattern, reads, names]
  cases substitution : r.substitution with
  | none =>
    have strips : r.removeParams ≠ [] := fun empty => by simp [substitution, empty] at one
    simp [textOrNull, Json.isTruthy, strips, Json.asText?, pure, Except.pure, bind, Except.bind]
  | some template =>
    have keeps : r.removeParams = [] := one.mp (by simp [substitution])
    simp [textOrNull, Json.isTruthy, keeps, Json.asText?, pure, Except.pure, bind, Except.bind]

/-! ## What a check establishes -/

/-- Names are there exactly if the value that holds them counts as given. -/
theorem checkNames_ok {id : Text} {value : Json} {names : List Text}
    (checked : Draft.checkNames id value = .ok names) :
    (names ≠ [] ↔ value.isTruthy) ∧ ∀ name ∈ names, name ≠ [] := by
  unfold Draft.checkNames at checked
  split at checked
  · cases checked
  next items found =>
    split at checked
    next names' read =>
      obtain rfl := Except.ok.inj checked
      obtain ⟨same, nonempty⟩ := mapM_asNonEmptyText?.mp read
      refine ⟨?_, nonempty⟩
      rw [ne_eq, ← List.map_eq_nil_iff (f := Json.text), ← same]
      cases value with
      | list =>
        obtain rfl := Option.some.inj found
        simp [Json.isTruthy]
      | object =>
        obtain rfl := Option.some.inj found
        simp [Json.isTruthy]
      | text =>
        obtain rfl := Option.some.inj found
        simp [Json.isTruthy]
      | _ => cases found
    next => cases checked

theorem valid_of_check {d : Draft} (checked : d.check = .ok r) : r.Valid := by
  unfold Draft.check at checked
  cases id : d.id.asNonEmptyText? with
  | none => simp [id, throw, throwThe, MonadExceptOf.throw] at checked
  | some name =>
    cases pattern : d.pattern.asNonEmptyText? with
    | none => simp [id, pattern, throw, throwThe, MonadExceptOf.throw] at checked
    | some p =>
      cases reads : Pattern.read p with
      | error e =>
        simp [id, pattern, reads, throw, throwThe, MonadExceptOf.throw, bind, Except.bind] at checked
      | ok compiled =>
        simp only [id, pattern, reads, bind, Except.bind, pure, Except.pure, throw, throwThe,
          MonadExceptOf.throw] at checked
        split at checked
        · cases checked
        next notBoth =>
          split at checked
          · cases checked
          next notNeither =>
            split at checked
            · cases checked
            next text =>
              cases read : Draft.checkNames name d.removeParams with
              | error e => simp [read] at checked
              | ok names =>
                obtain ⟨given, nonempty⟩ := checkNames_ok read
                simp only [read] at checked
                split at checked
                next enabled =>
                  obtain rfl := Except.ok.inj checked
                  refine ⟨Json.ne_nil_of_asNonEmptyText? id, Json.ne_nil_of_asNonEmptyText? pattern,
                    ⟨compiled, reads⟩, ?_, nonempty⟩
                  rw [Json.isSome_asText?_iff text]
                  constructor
                  · intro expands
                    exact Classical.byContradiction fun some => notBoth ⟨expands, given.mp some⟩
                  · intro empty null
                    exact notNeither ⟨fun expands => expands null, fun some => given.mpr some empty⟩
                next => cases checked

/-- What a check passes on of a draft. -/
theorem check_ok {d : Draft} (checked : d.check = .ok r) :
    d.id = .text r.id ∧ d.pattern = .text r.pattern ∧ r.substitution = d.substitution.asText? ∧
      Draft.checkNames r.id d.removeParams = .ok r.removeParams ∧ d.enabled = .bool r.enabled ∧
      r.source = d.source ∧ r.examples = d.examples := by
  unfold Draft.check at checked
  simp only [bind, Except.bind, pure, Except.pure, throw, throwThe, MonadExceptOf.throw] at checked
  -- Each test either fails or leaves the rest of the check; only its end gives a rule.
  repeat' split at checked
  all_goals cases checked
  exact ⟨Json.eq_text_of_asNonEmptyText? ‹_›, Json.eq_text_of_asNonEmptyText? ‹_›, rfl, ‹_›, ‹_›, rfl, rfl⟩

/-- A rule passes its check as it is, if it is right. -/
theorem check_draft_eq_ok {r' : Rule} : r.draft.check = .ok r' ↔ r.Valid ∧ r' = r := by
  constructor
  · intro checked
    obtain ⟨id, pattern, substitution, names, enabled, source, examples⟩ := check_ok checked
    have same : r' = r := by
      obtain ⟨names, -⟩ := checkNames_list.mp names
      have names : r.removeParams = r'.removeParams := List.map_injective_iff.mpr (fun _ _ => Json.text.inj) names
      have template : (textOrNull r.substitution).asText? = r.substitution := by cases r.substitution <;> rfl
      have substitution : r'.substitution = r.substitution := substitution.trans template
      cases r
      cases r'
      cases id
      cases pattern
      cases enabled
      cases source
      cases examples
      cases names
      cases substitution
      rfl
    exact ⟨same ▸ valid_of_check checked, same⟩
  · rintro ⟨valid, rfl⟩
    exact check_draft valid r'.source

/-- A rule that makes one letter of another. -/
def letterRule (old new : CodePoint) : Rule where
  id := [old]
  pattern := [old]
  substitution := some [new]
  removeParams := []
  enabled := true
  source := none
  examples := []

theorem valid_letterRule {old new : CodePoint} (reads : ∃ p, Pattern.read [old] = .ok p) :
    (letterRule old new).Valid :=
  ⟨by simp [letterRule], by simp [letterRule], reads, by simp [letterRule], by simp [letterRule]⟩

end Rule
end UrlRules
