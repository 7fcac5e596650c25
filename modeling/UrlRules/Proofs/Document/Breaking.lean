import UrlRules.Proofs.Document.Import
import UrlRules.Proofs.Rule.Breaking

/-!
# Where reading a document breaks off

A document is refused if it is no list of rules, or with the issues of its entries. Reading it breaks off with any other
error only at an entry for which reading a rule does, and then at the first one (`readEntries_eq_error_iff`). New ids
change nothing in that (`importRules_eq_error_iff`).
-/
namespace UrlRules.Document

open Text

variable {source : Option Text} {unique : Bool} {index : Nat} {seen : List Text} {entry : Json} {entries : List Json}
  {data : Json} {rules : List Rule} {cause : RuleError}

/-- A document is refused for what it says. -/
inductive Error.IsRefusal : Error → Prop
  | noList (fault : RuleFault) : IsRefusal (.rule (.invalidRecord fault))
  | issues (issues : List Issue) : IsRefusal (.rejected issues)

/-- Reading entries breaks off at the first for which reading a rule does. -/
inductive BreaksAt : List Json → RuleError → Prop
  | here {entry : Json} {entries : List Json} {cause : RuleError} (breaks : Rule.Breaks entry cause) :
      BreaksAt (entry :: entries) cause
  | later {entry : Json} {entries : List Json} {cause : RuleError} (goesOn : ∀ other, ¬Rule.Breaks entry other)
      (breaks : BreaksAt entries cause) : BreaksAt (entry :: entries) cause

theorem breaksAt_cons_iff (goesOn : ∀ other, ¬Rule.Breaks entry other) :
    BreaksAt (entry :: entries) cause ↔ BreaksAt entries cause := by
  constructor
  · rintro (breaks | ⟨-, breaks⟩)
    · exact absurd breaks (goesOn cause)
    · exact breaks
  · exact .later goesOn

theorem not_breaks_of_ok {r : Rule} (made : Rule.ofJson entry source = .ok r) : ¬Rule.Breaks entry cause := by
  intro breaks
  cases made.symm.trans (breaks.ofJson source).1

theorem not_breaks_of_refusal {issue : Issue} (refusal : Refusal source index entry issue) :
    ¬Rule.Breaks entry cause := by
  intro breaks
  obtain ⟨failed, unreported⟩ := breaks.ofJson source
  obtain ⟨e, refused, reported⟩ := refusal.failed
  obtain rfl := Except.error.inj (refused.symm.trans failed)
  rw [reported] at unreported
  cases unreported

/-- Reading entries fails exactly where it breaks off; the issues of entries do not stop it. -/
theorem readEntries_eq_error_iff :
    readEntries source unique index seen entries = .error cause ↔ BreaksAt entries cause := by
  induction entries generalizing index seen with
  | nil =>
    constructor
    · intro failed
      cases failed
    · intro breaks
      cases breaks
  | cons entry entries ih =>
    rcases entry_cases source index entry with ⟨r, made⟩ | ⟨issue, refusal⟩ | ⟨e, failed, unreported⟩
    -- A rule and an issue are both passed over; only the third kind of entry stops.
    · rw [readEntries_of_ok made, breaksAt_cons_iff fun other => not_breaks_of_ok made,
        ← @ih (index + 1) (r.id :: seen)]
      cases readEntries source unique (index + 1) (r.id :: seen) entries <;> simp [Except.map]
    · rw [readEntries_of_refusal refusal, breaksAt_cons_iff fun other => not_breaks_of_refusal refusal,
        ← @ih (index + 1) seen]
      cases readEntries source unique (index + 1) seen entries <;> simp [Except.map]
    · rw [readEntries_of_error failed unreported, Except.error.injEq]
      constructor
      · rintro rfl
        exact .here (Rule.breaks_iff.mpr ⟨failed, unreported⟩)
      · rintro (breaks | ⟨goesOn, -⟩)
        · exact Except.error.inj (failed.symm.trans (breaks.ofJson source).1)
        · exact absurd (Rule.breaks_iff.mpr ⟨failed, unreported⟩) (goesOn e)

/-! ## Documents -/

/-- Reading a document breaks off at one of its entries. -/
def Breaks (data : Json) (cause : RuleError) : Prop := ∃ entries, entriesOf data = .ok entries ∧ BreaksAt entries cause

theorem BreaksAt.unreported (breaks : BreaksAt entries cause) : cause.isReported = false := by
  induction breaks with
  | here breaks => exact (breaks.ofJson none).2
  | later _ _ ih => exact ih

theorem BreaksAt.not_isRefusal (breaks : BreaksAt entries cause) : ¬(Error.rule cause).IsRefusal := by
  rintro ⟨fault⟩
  cases breaks.unreported

theorem parse_eq_error_iff {e : Error} :
    parse data source unique = .error e ∧ ¬e.IsRefusal ↔ ∃ cause, e = .rule cause ∧ Breaks data cause := by
  constructor
  · rintro ⟨failed, other⟩
    unfold parse at failed
    split at failed
    next fault _ =>
      obtain rfl := Except.error.inj failed
      exact absurd (.noList fault) other
    next entries listed =>
      split at failed
      next cause stopped =>
        exact ⟨cause, (Except.error.inj failed).symm, entries, listed, readEntries_eq_error_iff.mp stopped⟩
      · cases failed
      next _ issues _ _ =>
        obtain rfl := Except.error.inj failed
        exact absurd (.issues issues) other
  · rintro ⟨cause, rfl, entries, listed, breaks⟩
    have stopped : readEntries source unique 0 [] entries = .error cause := readEntries_eq_error_iff.mpr breaks
    exact ⟨by simp [parse, listed, stopped], breaks.not_isRefusal⟩

/-- New ids do not make an import fail. -/
theorem importRules_eq_error_iff {ids : Option (Nat → Text)} (nonempty : ∀ supply ∈ ids, ∀ i, supply i ≠ [])
    {e : Error} : importRules data (ids.map fun supply i => .text (supply i)) = .error e ↔
      parse data none true = .error e := by
  unfold importRules
  cases read : parse data none true with
  | error failure => simp
  | ok rules =>
    cases ids with
    | none => simp
    | some supply =>
      have valid : ∀ r ∈ rules, r.Valid := fun r member => ((wellTyped_of_parse read).1 r member).1.valid
      have named := remap_texts valid supply 0 fun i _ => nonempty supply rfl i
      simp [named]

/-- Reading a document and importing it, under new ids or not, fail with nothing but a refusal, unless an entry breaks
off; then they fail with its error, which is that of the first such entry. -/
theorem importRules_breaks_iff (data : Json) (source : Option Text) (unique : Bool) (ids : Option (Nat → Text))
    (nonempty : ∀ supply ∈ ids, ∀ i, supply i ≠ []) (e : Error) :
    (parse data source unique = .error e ∧ ¬e.IsRefusal ↔ ∃ cause, e = .rule cause ∧ Breaks data cause) ∧
    (importRules data (ids.map fun supply i => .text (supply i)) = .error e ∧ ¬e.IsRefusal ↔
      ∃ cause, e = .rule cause ∧ Breaks data cause) := by
  refine ⟨parse_eq_error_iff, ?_⟩
  rw [importRules_eq_error_iff nonempty]
  exact parse_eq_error_iff

/-- A number in the place of the examples, after an entry that is fine, and a pattern that asks for ASCII and for every
script. -/
theorem importRules_breaks_iff_number :
    let fields (pattern : Text) (test : Json) := [(Text.of "id", .text [0x61]), (Text.of "from", .text pattern),
      (Text.of "to", .text []), (Text.of "test", test)]
    let number : Json := .list [.object (fields [0x62] .null), .object (fields [0x62] (.int 1))]
    let clashing : Json := .list [.object (fields (Text.of "(?a)(?u)x") .null)]
    importRules number (some fun i => .text [0x78 + i]) = .error (.rule .notIterable) ∧
      parse clashing none false = .error (.rule (.patternFailure .scriptsClash)) := by
  intro fields number clashing
  have begins (pattern : Text) (test : Json) (nonempty : pattern ≠ []) :
      Rule.Begins (fields pattern test) [0x61] pattern := {
    named := rfl
    id_ne_nil := by simp
    filtered := .older rfl rfl
    pattern_ne_nil := nonempty
    substituted := ⟨some [], .older rfl rfl⟩
    params := .inl (Json.omitted_iff.mpr rfl) }
  have fine : ∃ r, Rule.ofJson (.object (fields [0x62] .null)) none = .ok r := ⟨_, by cbv⟩
  have breaks : Breaks number .notIterable := by
    obtain ⟨r, made⟩ := fine
    exact ⟨_, rfl, .later (fun other => not_breaks_of_ok made) (.here (.examples (begins _ _ (by simp)) rfl
      (.int Int.one_ne_zero)))⟩
  have clash : Pattern.read (Text.of "(?a)(?u)x") = .error .scriptsClash := by cbv
  have breaks' : Breaks clashing (.patternFailure .scriptsClash) :=
    ⟨_, rfl, .here (.pattern (begins _ _ (by decide)) (.inl ⟨Json.omitted_iff.mpr rfl, rfl⟩) clash rfl)⟩
  exact ⟨((importRules_breaks_iff number none true (some fun i => [0x78 + i]) (by simp) _).2.mpr ⟨_, rfl, breaks⟩).1,
    ((importRules_breaks_iff clashing none false none (by simp) _).1.mpr ⟨_, rfl, breaks'⟩).1⟩

end UrlRules.Document
