import UrlRules.Command.Error
import UrlRules.Proofs.Rule.Format

/-!
# Where reading a rule breaks off

A value that is no rule is refused with a fault of one of its fields, except in two cases, in which reading `Breaks` off
with an error that is not reported: the examples are a value that counts as given and has no items, or the pattern
fails for a cause that is not its form. In both cases everything that is looked at before is right (`breaks_iff`).
-/
namespace UrlRules

open Text

namespace Json

variable {value : Json}

/-- A value that counts as given and has no items. -/
inductive NoItems : Json → Prop
  | yes : NoItems (.bool true)
  | int {n : Int} (given : n ≠ 0) : NoItems (.int n)
  | float {x : Binary64} (given : x.isZero = false) : NoItems (.float x)

theorem noItems_iff : NoItems value ↔ value.isTruthy = true ∧ Rule.itemsOf? value = none := by
  constructor
  · rintro (_ | ⟨given⟩ | ⟨given⟩)
    · exact ⟨rfl, rfl⟩
    · exact ⟨by simpa [isTruthy] using given, rfl⟩
    · exact ⟨by simpa [isTruthy] using given, rfl⟩
  · rintro ⟨truthy, none⟩
    cases value with
    | bool b =>
      obtain rfl : b = true := truthy
      exact .yes
    | int n => exact .int (by simpa [isTruthy] using truthy)
    | float x => exact .float (by simpa [isTruthy] using truthy)
    | null => cases truthy
    | _ => cases none

end Json

namespace Rule

open Json (Listed NoItems)

variable {fields : List (Text × Json)} {value data : Json} {source : Option Text} {id pattern : Text} {e : RuleError}

/-- Reading a value as a rule breaks off. -/
inductive Breaks : Json → RuleError → Prop
  | examples {fields : List (Text × Json)} {id pattern : Text} {value : Json} (begins : Begins fields id pattern)
      (found : Json.field? fields (Text.of "test") = some value) (none : NoItems value) :
      Breaks (.object fields) .notIterable
  | pattern {fields : List (Text × Json)} {id pattern : Text} {examples : List Example} {failure : Pattern.Error}
      (begins : Begins fields id pattern) (listed : Listed fields "test" ShowsExample examples)
      (fails : Pattern.read pattern = .error failure) (other : failure.isInvalidPattern = false) :
      Breaks (.object fields) (.patternFailure failure)

/-! ## Examples -/

theorem readExamples_of_noItems (none : NoItems value) : readExamples id value = .error .notIterable := by
  obtain ⟨truthy, without⟩ := Json.noItems_iff.mp none
  simp [readExamples, truthy, without]

theorem readExamples_eq_error (failed : readExamples id value = .error e) :
    (e = .notIterable ∧ NoItems value) ∨ e = .invalidRecord (.badTest id) := by
  unfold readExamples at failed
  split at failed
  · cases failed
  next truthy =>
    split at failed
    next none => exact .inl ⟨(Except.error.inj failed).symm, Json.noItems_iff.mpr ⟨by simpa using truthy, none⟩⟩
    next =>
      split at failed
      · cases failed
      · exact .inr (Except.error.inj failed).symm

/-! ## Checks -/

theorem checkNames_eq_error {items : List Json} (failed : Draft.checkNames id (.list items) = .error e) :
    e = .invalidRecord (.badParameterName id) := by
  simp only [Draft.checkNames, itemsOf?] at failed
  split at failed
  · cases failed
  · exact (Except.error.inj failed).symm

variable {examples : List Example}

theorem Begins.check_of_error {failure : Pattern.Error} (begins : Begins fields id pattern)
    (fails : Pattern.read pattern = .error failure) :
    (draftWith fields id source examples).check = .error (.ofPattern pattern id failure) := by
  simp [Draft.check, draftWith, Json.asNonEmptyText?_text begins.id_ne_nil, fieldOr_eq_iff.mpr begins.filtered,
    Json.asNonEmptyText?_text begins.pattern_ne_nil, fails, bind, Except.bind, throw, throwThe, MonadExceptOf.throw]

theorem Begins.params_list (begins : Begins fields id pattern) : ∃ items, paramsOf fields = .list items := by
  rcases begins.params with omitted | ⟨items, found⟩
  · exact ⟨[], paramsOf_of_omitted omitted⟩
  · exact ⟨items, paramsOf_of_list found⟩

/-- Once the pattern reads, the check has nothing but faults to report. -/
theorem Begins.invalidRecord_of_check {p : Pattern} (begins : Begins fields id pattern)
    (reads : Pattern.read pattern = .ok p) (failed : (draftWith fields id source examples).check = .error e) :
    ∃ fault, e = .invalidRecord fault := by
  obtain ⟨items, params⟩ := begins.params_list
  simp only [Draft.check, draftWith, Json.asNonEmptyText?_text begins.id_ne_nil, fieldOr_eq_iff.mpr begins.filtered,
    Json.asNonEmptyText?_text begins.pattern_ne_nil, params, reads, bind, Except.bind, pure, Except.pure, throw,
    throwThe, MonadExceptOf.throw] at failed
  -- Both behaviours, none, a template that is no text, a name, and the flag: each has its fault.
  split at failed
  · exact ⟨_, (Except.error.inj failed).symm⟩
  split at failed
  · exact ⟨_, (Except.error.inj failed).symm⟩
  split at failed
  · exact ⟨_, (Except.error.inj failed).symm⟩
  split at failed
  next names =>
    obtain rfl := Except.error.inj failed
    exact ⟨_, checkNames_eq_error names⟩
  next =>
    split at failed
    · cases failed
    · exact ⟨_, (Except.error.inj failed).symm⟩

/-! ## Rules -/

theorem not_isInvalidPattern {failure : Pattern.Error}
    (unreported : (RuleError.ofPattern pattern id failure).isReported = false) :
    RuleError.ofPattern pattern id failure = .patternFailure failure ∧ failure.isInvalidPattern = false := by
  cases form : failure.isInvalidPattern with
  | true => simp [RuleError.ofPattern, form, RuleError.isReported] at unreported
  | false => exact ⟨by simp [RuleError.ofPattern, form], rfl⟩

/-- Where reading breaks off, it fails with an error that is not reported. -/
theorem Breaks.ofJson (breaks : Breaks data e) (source : Option Text) :
    Rule.ofJson data source = .error e ∧ e.isReported = false := by
  cases breaks with
  | examples begins found none =>
    rw [ofJson_of_begins begins, found, Option.getD_some, readExamples_of_noItems none]
    exact ⟨rfl, rfl⟩
  | pattern begins listed fails other =>
    rw [ofJson_of_begins begins, readExamples_eq_ok_iff.mpr listed]
    refine ⟨(begins.check_of_error fails).trans ?_, rfl⟩
    simp [RuleError.ofPattern, other]

theorem breaks_of_ofJson (failed : ofJson data source = .error e) (unreported : e.isReported = false) :
    Breaks data e := by
  rcases draftOf_cases data source with ⟨fault, refused⟩ | ⟨fields, id, pattern, rfl, begins⟩
  · rw [ofJson, refused] at failed
    obtain rfl := Except.error.inj failed
    cases unreported
  rw [ofJson_of_begins begins] at failed
  cases read : readExamples id ((Json.field? fields (Text.of "test")).getD .null) with
  | error cause =>
    rw [read] at failed
    obtain rfl := Except.error.inj failed
    rcases readExamples_eq_error read with ⟨rfl, none⟩ | rfl
    · cases found : Json.field? fields (Text.of "test") with
      | none => simp [found, Json.noItems_iff, Json.isTruthy] at none
      | some value => exact .examples begins found (by simpa [found] using none)
    · cases unreported
  | ok examples =>
    rw [read] at failed
    cases reads : Pattern.read pattern with
    | ok p =>
      obtain ⟨fault, rfl⟩ := begins.invalidRecord_of_check reads failed
      cases unreported
    | error failure =>
      obtain rfl := Except.error.inj (failed.symm.trans (begins.check_of_error reads))
      obtain ⟨kept, other⟩ := not_isInvalidPattern unreported
      rw [kept]
      exact .pattern begins (readExamples_eq_ok_iff.mp read) reads other

/-- Reading a value as a rule breaks off exactly where it fails with an error that is not reported. -/
theorem breaks_iff : Breaks data e ↔ ofJson data source = .error e ∧ e.isReported = false :=
  ⟨fun breaks => breaks.ofJson source, fun ⟨failed, unreported⟩ => breaks_of_ofJson failed unreported⟩

end Rule
end UrlRules
