import UrlRules.Proofs.Rule.Check

/-!
# What a check refuses

A draft is refused for the first of its faults, in the order of the check: its id, its pattern, its behaviours, the
names of its parameters and its flag (`Rule.Draft.Faulty`). There is no other refusal, and none without its
fault (`check_eq_error_iff`); so a draft that has none is taken as a rule.
-/
namespace UrlRules

open Text

namespace Json

variable {value : Json}

theorem asNonEmptyText?_eq_none_iff : value.asNonEmptyText? = none ↔ ∀ s ≠ [], value ≠ .text s := by
  constructor
  · rintro none s nonempty rfl
    rw [asNonEmptyText?_text nonempty] at none
    cases none
  · intro other
    cases read : value.asNonEmptyText? with
    | none => rfl
    | some s => exact absurd (eq_text_of_asNonEmptyText? read) (other s (ne_nil_of_asNonEmptyText? read))

theorem asText?_eq_none_iff : value.asText? = none ↔ ∀ s, value ≠ .text s := by
  cases value <;> simp [asText?]

end Json

namespace Rule.Draft

variable {d : Draft} {id pattern : Text} {e : RuleError} {r : Rule}

/-- The id and the pattern are texts that are not empty. -/
structure Headed (d : Draft) (id pattern : Text) : Prop where
  named : d.id = .text id
  id_ne_nil : id ≠ []
  filtered : d.pattern = .text pattern
  pattern_ne_nil : pattern ≠ []

/-- The id is right, and so is the pattern. -/
def Readable (d : Draft) (id : Text) : Prop := ∃ pattern p, d.Headed id pattern ∧ Pattern.read pattern = .ok p

/-- There is a template or there are parameters, and not both. -/
def OneBehaviour (d : Draft) : Prop :=
  (d.substitution = .null ∧ d.removeParams.isTruthy = true) ∨
    ∃ template, d.substitution = .text template ∧ d.removeParams.isTruthy = false

/-- What a draft is refused for. Everything that is looked at before is right. -/
inductive Faulty (d : Draft) : RuleError → Prop
  | emptyId (unnamed : ∀ id ≠ [], d.id ≠ .text id) : Faulty d (.invalidRecord .emptyId)
  | missingPattern {id : Text} (named : d.id = .text id) (nonempty : id ≠ [])
      (missing : ∀ pattern ≠ [], d.pattern ≠ .text pattern) : Faulty d (.invalidRecord (.missingPattern id))
  | pattern {id pattern : Text} {failure : Pattern.Error} (headed : d.Headed id pattern)
      (fails : Pattern.read pattern = .error failure) : Faulty d (.ofPattern pattern id failure)
  | bothBehaviours {id : Text} (readable : d.Readable id) (expands : d.substitution ≠ .null)
      (strips : d.removeParams.isTruthy = true) : Faulty d (.invalidRecord (.bothBehaviours id))
  | noBehaviour {id : Text} (readable : d.Readable id) (expands : d.substitution = .null)
      (strips : d.removeParams.isTruthy = false) : Faulty d (.invalidRecord (.noBehaviour id))
  | substitutionNotText {id : Text} (readable : d.Readable id) (expands : d.substitution ≠ .null)
      (strips : d.removeParams.isTruthy = false) (other : ∀ s, d.substitution ≠ .text s) :
      Faulty d (.invalidRecord (.substitutionNotText id))
  | notIterable {id : Text} (readable : d.Readable id) (one : d.OneBehaviour)
      (without : itemsOf? d.removeParams = none) : Faulty d .notIterable
  | badParameterName {id : Text} {items : List Json} (readable : d.Readable id) (one : d.OneBehaviour)
      (found : itemsOf? d.removeParams = some items) (bad : ∃ item ∈ items, ∀ name ≠ [], item ≠ .text name) :
      Faulty d (.invalidRecord (.badParameterName id))
  | enabledNotBoolean {id : Text} {names : List Text} (readable : d.Readable id) (one : d.OneBehaviour)
      (checked : checkNames id d.removeParams = .ok names) (other : ∀ b, d.enabled ≠ .bool b) :
      Faulty d (.invalidRecord (.enabledNotBoolean id))

theorem Headed.texts (headed : d.Headed id pattern) :
    d.id.asNonEmptyText? = some id ∧ d.pattern.asNonEmptyText? = some pattern := by
  rw [headed.named, headed.filtered]
  exact ⟨Json.asNonEmptyText?_text headed.id_ne_nil, Json.asNonEmptyText?_text headed.pattern_ne_nil⟩

theorem headed_of_texts (named : d.id.asNonEmptyText? = some id) (filtered : d.pattern.asNonEmptyText? = some pattern) :
    d.Headed id pattern where
  named := Json.eq_text_of_asNonEmptyText? named
  id_ne_nil := Json.ne_nil_of_asNonEmptyText? named
  filtered := Json.eq_text_of_asNonEmptyText? filtered
  pattern_ne_nil := Json.ne_nil_of_asNonEmptyText? filtered

/-- Names cannot be taken from a value without items, and not from one with an item that is no name. -/
theorem checkNames_eq_error_iff {names : Json} :
    checkNames id names = .error e ↔
      (itemsOf? names = none ∧ e = .notIterable) ∨
        ∃ items, itemsOf? names = some items ∧ (∃ item ∈ items, ∀ name ≠ [], item ≠ .text name) ∧
          e = .invalidRecord (.badParameterName id) := by
  unfold checkNames
  cases itemsOf? names with
  | none => simp [eq_comm]
  | some items =>
    have bad : items.mapM Json.asNonEmptyText? = none ↔ ∃ item ∈ items, ∀ name ≠ [], item ≠ .text name := by
      rw [mapM_eq_none]
      exact exists_congr fun item => and_congr_right fun _ => Json.asNonEmptyText?_eq_none_iff
    cases read : items.mapM Json.asNonEmptyText? with
    | none => simp [← bad, read, eq_comm]
    | some names => simp [← bad, read]

/-- A draft that is refused has the fault it is refused for. -/
theorem faulty_of_check (failed : Draft.check d = .error e) : d.Faulty e := by
  unfold Draft.check at failed
  cases named : d.id.asNonEmptyText? with
  | none =>
    simp only [named, throw, throwThe, MonadExceptOf.throw] at failed
    obtain rfl := (Except.error.inj failed).symm
    exact .emptyId (Json.asNonEmptyText?_eq_none_iff.mp named)
  | some id =>
    cases filtered : d.pattern.asNonEmptyText? with
    | none =>
      simp only [named, filtered, throw, throwThe, MonadExceptOf.throw] at failed
      obtain rfl := (Except.error.inj failed).symm
      exact .missingPattern (Json.eq_text_of_asNonEmptyText? named) (Json.ne_nil_of_asNonEmptyText? named)
        (Json.asNonEmptyText?_eq_none_iff.mp filtered)
    | some pattern =>
      have headed := headed_of_texts named filtered
      cases reads : Pattern.read pattern with
      | error failure =>
        simp only [named, filtered, reads, bind, Except.bind, throw, throwThe, MonadExceptOf.throw] at failed
        obtain rfl := (Except.error.inj failed).symm
        exact .pattern headed reads
      | ok p =>
        have readable : d.Readable id := ⟨pattern, p, headed, reads⟩
        simp only [named, filtered, reads, bind, Except.bind, pure, Except.pure, throw, throwThe,
          MonadExceptOf.throw] at failed
        split at failed
        next both =>
          obtain rfl := (Except.error.inj failed).symm
          exact .bothBehaviours readable both.1 both.2
        next notBoth =>
          split at failed
          next neither =>
            obtain rfl := (Except.error.inj failed).symm
            exact .noBehaviour readable (not_not.mp neither.1) (by simpa using neither.2)
          next notNeither =>
            split at failed
            next noText =>
              obtain rfl := (Except.error.inj failed).symm
              have strips : d.removeParams.isTruthy = false := by simpa [noText.1] using notBoth
              exact .substitutionNotText readable noText.1 strips (Json.asText?_eq_none_iff.mp noText.2)
            next text =>
              have one : d.OneBehaviour := by
                by_cases expands : d.substitution = .null
                · exact .inl ⟨expands, by simpa [expands] using notNeither⟩
                · obtain ⟨template, given⟩ : ∃ template, d.substitution = .text template := by
                    by_contra other
                    exact text ⟨expands, Json.asText?_eq_none_iff.mpr (not_exists.mp other)⟩
                  exact .inr ⟨template, given, by simpa [expands] using notBoth⟩
              cases checked : checkNames id d.removeParams with
              | error cause =>
                simp only [checked] at failed
                obtain rfl := (Except.error.inj failed).symm
                rcases checkNames_eq_error_iff.mp checked with ⟨without, rfl⟩ | ⟨items, found, bad, rfl⟩
                · exact .notIterable readable one without
                · exact .badParameterName readable one found bad
              | ok names =>
                simp only [checked] at failed
                split at failed
                · cases failed
                next other =>
                  obtain rfl := (Except.error.inj failed).symm
                  exact .enabledNotBoolean readable one checked other

/-- A draft with a fault is refused for it. -/
theorem check_of_faulty (faulty : d.Faulty e) : Draft.check d = .error e := by
  unfold Draft.check
  simp only [bind, Except.bind, pure, Except.pure, throw, throwThe, MonadExceptOf.throw]
  cases faulty with
  | emptyId unnamed => rw [Json.asNonEmptyText?_eq_none_iff.mpr unnamed]
  | missingPattern named nonempty missing =>
    rw [named, Json.asNonEmptyText?_text nonempty, Json.asNonEmptyText?_eq_none_iff.mpr missing]
  | pattern headed fails => simp only [headed.texts, fails]
  | bothBehaviours readable expands strips =>
    obtain ⟨pattern, p, headed, reads⟩ := readable
    simp [headed.texts, reads, expands, strips]
  | noBehaviour readable expands strips =>
    obtain ⟨pattern, p, headed, reads⟩ := readable
    simp [headed.texts, reads, expands, strips]
  | substitutionNotText readable expands strips other =>
    obtain ⟨pattern, p, headed, reads⟩ := readable
    simp [headed.texts, reads, expands, strips, Json.asText?_eq_none_iff.mpr other]
  | @notIterable id readable one without =>
    obtain ⟨pattern, p, headed, reads⟩ := readable
    have refused : checkNames id d.removeParams = .error .notIterable :=
      checkNames_eq_error_iff.mpr (.inl ⟨without, rfl⟩)
    rcases one with ⟨expands, strips⟩ | ⟨template, expands, strips⟩ <;>
      simp [headed.texts, reads, expands, strips, Json.asText?, refused]
  | @badParameterName id items readable one found bad =>
    obtain ⟨pattern, p, headed, reads⟩ := readable
    have refused : checkNames id d.removeParams = .error (.invalidRecord (.badParameterName id)) :=
      checkNames_eq_error_iff.mpr (.inr ⟨items, found, bad, rfl⟩)
    rcases one with ⟨expands, strips⟩ | ⟨template, expands, strips⟩ <;>
      simp [headed.texts, reads, expands, strips, Json.asText?, refused]
  | enabledNotBoolean readable one checked other =>
    obtain ⟨pattern, p, headed, reads⟩ := readable
    rcases one with ⟨expands, strips⟩ | ⟨template, expands, strips⟩ <;>
      simp [headed.texts, reads, expands, strips, Json.asText?, checked]

theorem check_eq_error_iff : Draft.check d = .error e ↔ d.Faulty e := ⟨faulty_of_check, check_of_faulty⟩

end Rule.Draft
end UrlRules
