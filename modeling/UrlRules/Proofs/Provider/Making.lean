import UrlRules.Proofs.Provider.Ids

/-!
# What is made of an entry

An entry whose value is a pattern gives one rule, which is said in full (`makeRule_of_pattern`). Any other value gives
a warning, except a text that is no pattern for another cause than its form: for it the document is given up
(`makeRule_ok_iff`). A list of entries is normalized exactly if each of them is (`collect_ok_iff`).
-/
namespace UrlRules.Provider

open Text

/-- The pattern that a value is: a text other than the empty one that can be read. -/
def patternOf? (value : Json) : Option Text :=
  value.asNonEmptyText?.filter fun s => (Pattern.read s).isOk

/-- A text that is no pattern, for another cause than its form. A document is given up for it. -/
def GivesUp (value : Json) : Prop :=
  ∃ s e, value = .text s ∧ Pattern.read s = .error e ∧ e.isInvalidPattern = false

/-- The rule of an entry with a pattern. -/
def ruleWith (provider : Provider) (id pattern : Text) : Behaviour → Rule
  | .expand template => ⟨id, pattern, some template, [], true, some provider.name, []⟩
  | .strip names => ⟨id, pattern, none, names, true, some provider.name, []⟩

/-- If names are stripped, there are some, and none is empty. -/
def Behaviour.Proper : Behaviour → Prop
  | .expand _ => True
  | .strip names => names ≠ [] ∧ ∀ name ∈ names, name ≠ []

variable {provider : Provider} {id s : Text} {value : Json} {behaviour : Behaviour}

/-! ## Patterns -/

theorem patternOf?_eq_some_iff :
    patternOf? value = some s ↔ value = .text s ∧ s ≠ [] ∧ ∃ p, Pattern.read s = .ok p := by
  constructor
  · intro given
    obtain ⟨text, reads⟩ := Option.filter_eq_some_iff.mp given
    refine ⟨Json.eq_text_of_asNonEmptyText? text, Json.ne_nil_of_asNonEmptyText? text, ?_⟩
    cases read : Pattern.read s with
    | ok p => exact ⟨p, rfl⟩
    | error e => simp [read, Except.isOk, Except.toBool] at reads
  · rintro ⟨rfl, nonempty, p, reads⟩
    exact Option.filter_eq_some_iff.mpr
      ⟨Json.asNonEmptyText?_text nonempty, by simp [reads, Except.isOk, Except.toBool]⟩

/-- The empty text can be read, though no rule has it as its pattern. -/
theorem exists_read_nil : ∃ p, Pattern.read [] = .ok p := ⟨_, rfl⟩

/-! ## One entry -/

theorem makeRule_of_pattern (named : id ≠ []) (proper : behaviour.Proper) (given : patternOf? value = some s) :
    makeRule provider id value behaviour = .ok (.rule (ruleWith provider id s behaviour)) := by
  obtain ⟨rfl, nonempty, reads⟩ := patternOf?_eq_some_iff.mp given
  have valid : (ruleWith provider id s behaviour).Valid := by
    cases behaviour with
    | expand template => exact ⟨named, nonempty, reads, by simp [ruleWith], by simp [ruleWith]⟩
    | strip names => exact ⟨named, nonempty, reads, by simpa [ruleWith] using proper.1, proper.2⟩
  have draft : draftOf provider id (.text s) behaviour = (ruleWith provider id s behaviour).draft := by
    cases behaviour <;> rfl
  have checked : (draftOf provider id (.text s) behaviour).check = .ok (ruleWith provider id s behaviour) :=
    draft ▸ Rule.check_draft valid _
  simp only [makeRule, checked]

/-- The check of a text that is no pattern fails with what reading it says. -/
theorem check_draftOf_of_error {e : Pattern.Error} (named : id ≠ []) (fails : Pattern.read s = .error e) :
    (draftOf provider id (.text s) behaviour).check = .error (.ofPattern s id e) := by
  have nonempty : s ≠ [] := by
    rintro rfl
    obtain ⟨p, reads⟩ := exists_read_nil
    rw [fails] at reads
    cases reads
  cases behaviour <;>
    simp [Rule.Draft.check, draftOf, Json.asNonEmptyText?_text named, Json.asNonEmptyText?_text nonempty, fails, bind,
      Except.bind, throw, throwThe, MonadExceptOf.throw]

theorem check_draftOf_nil (named : id ≠ []) :
    (draftOf provider id (.text []) behaviour).check = .error (.invalidRecord (.missingPattern id)) := by
  have none : (Json.text []).asNonEmptyText? = none := rfl
  cases behaviour <;>
    simp [Rule.Draft.check, draftOf, Json.asNonEmptyText?_text named, none, throw, throwThe, MonadExceptOf.throw]

theorem makeRule_of_givesUp (named : id ≠ []) (behaviour : Behaviour) (givesUp : GivesUp value) :
    ∃ f, makeRule provider id value behaviour = .error f := by
  obtain ⟨s, e, rfl, fails, other⟩ := givesUp
  simp [makeRule, check_draftOf_of_error named fails, RuleError.ofPattern, other]

theorem makeRule_of_none (named : id ≠ []) (behaviour : Behaviour) (none : patternOf? value = none)
    (stays : ¬GivesUp value) : ∃ message, makeRule provider id value behaviour = .ok (.warning message) := by
  cases value with
  | text s =>
    cases read : Pattern.read s with
    | error e =>
      have form : e.isInvalidPattern = true := by
        by_contra other
        exact stays ⟨s, e, rfl, read, by simpa using other⟩
      simp [makeRule, check_draftOf_of_error named read, RuleError.ofPattern, form]
    | ok p =>
      obtain rfl : s = [] := by
        by_contra nonempty
        rw [patternOf?_eq_some_iff.mpr ⟨rfl, nonempty, p, read⟩] at none
        cases none
      simp [makeRule, check_draftOf_nil named]
  | _ => exact ⟨_, rfl⟩

/-- An entry gives the rule with its pattern, if it has one. -/
theorem rulesIn_makeRule (named : id ≠ []) (proper : behaviour.Proper) (value : Json) :
    rulesIn (makeRule provider id value behaviour) =
      ((patternOf? value).map fun s => ruleWith provider id s behaviour).toList := by
  cases given : patternOf? value with
  | some s =>
    rw [makeRule_of_pattern named proper given]
    rfl
  | none =>
    by_cases givesUp : GivesUp value
    · obtain ⟨f, failed⟩ := makeRule_of_givesUp named behaviour givesUp
      rw [failed]
      rfl
    · obtain ⟨message, warned⟩ := makeRule_of_none named behaviour given givesUp
      rw [warned]
      rfl

theorem makeRule_ok_iff (named : id ≠ []) (proper : behaviour.Proper) :
    (∃ own, makeRule provider id value behaviour = .ok own) ↔ ¬GivesUp value := by
  constructor
  · rintro ⟨own, made⟩ givesUp
    obtain ⟨f, failed⟩ := makeRule_of_givesUp named behaviour givesUp
    rw [made] at failed
    cases failed
  · intro stays
    cases given : patternOf? value with
    | some s => exact ⟨_, makeRule_of_pattern named proper given⟩
    | none =>
      obtain ⟨message, warned⟩ := makeRule_of_none named behaviour given stays
      exact ⟨_, warned⟩

/-! ## A list of entries -/

theorem collect_ok_iff {α : Type} {normalize : α → Except Failure Normalized} {entries : List α} :
    (∃ normalized, collect normalize entries = .ok normalized) ↔
      ∀ entry ∈ entries, ∃ own, normalize entry = .ok own := by
  induction entries with
  | nil => simp [collect]
  | cons entry entries ih =>
    rw [List.forall_mem_cons, ← ih]
    simp only [collect]
    cases normalize entry with
    | error f => simp
    | ok first => cases collect normalize entries <;> simp

end UrlRules.Provider
