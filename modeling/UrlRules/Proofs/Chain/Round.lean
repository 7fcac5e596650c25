import UrlRules.Chain.Resolve

/-!
# One round of a chain

In a round the rules are tried in their order. `Tried` says that the turn of a rule comes: it is
enabled, and no enabled rule before it applies or fails. `firstMatch_eq_none_iff` and
`firstMatch_eq_iff` say what a round does in these terms, and `Rewrites` is the relation between a URL
and the one that a round makes of it.
-/
namespace UrlRules.Rule

/-- Every enabled rule leaves the URL alone. -/
def NoneApplies (rules : List Rule) (url : Text) : Prop :=
  ∀ r ∈ rules, r.enabled → r.apply url = .ok none

/-- The rule is enabled, and every enabled rule before it leaves the URL alone. -/
def Tried (rules : List Rule) (url : Text) (r : Rule) : Prop :=
  r.enabled ∧ ∃ before after, rules = before ++ r :: after ∧ NoneApplies before url

/-- The first enabled rule that applies makes the second URL of the first one. -/
def Rewrites (rules : List Rule) (url next : Text) : Prop :=
  ∃ r, Tried rules url r ∧ r.apply url = .ok (some next)

variable {q r : Rule} {rules : List Rule} {url : Text}

@[simp] theorem noneApplies_nil (url : Text) : NoneApplies [] url := by
  simp [NoneApplies]

theorem noneApplies_cons :
    NoneApplies (q :: rules) url ↔ (q.enabled → q.apply url = .ok none) ∧ NoneApplies rules url := by
  simp [NoneApplies]

theorem not_tried_nil : ¬Tried [] url r := by
  rintro ⟨_, before, after, split, _⟩
  simp at split

theorem tried_cons :
    Tried (q :: rules) url r ↔
      (r = q ∧ q.enabled) ∨ ((q.enabled → q.apply url = .ok none) ∧ Tried rules url r) := by
  constructor
  · rintro ⟨enabled, before, after, split, quiet⟩
    cases before with
    | nil =>
      obtain ⟨rfl, rfl⟩ := List.cons.inj split
      exact .inl ⟨rfl, enabled⟩
    | cons b before =>
      obtain ⟨rfl, rfl⟩ := List.cons.inj split
      have quiet := noneApplies_cons.mp quiet
      exact .inr ⟨quiet.1, enabled, before, after, rfl, quiet.2⟩
  · rintro (⟨rfl, enabled⟩ | ⟨quiet, enabled, before, after, rfl, rest⟩)
    · exact ⟨enabled, [], rules, rfl, noneApplies_nil url⟩
    · exact ⟨enabled, q :: before, after, rfl, noneApplies_cons.mpr ⟨quiet, rest⟩⟩

/-- What a rule contributes to a round: its result under its id. -/
def turn (r : Rule) (url : Text) : Except ApplyError (Option (Text × Text)) :=
  (r.apply url).map (Option.map (r.id, ·))

theorem turn_eq_none_iff : r.turn url = .ok none ↔ r.apply url = .ok none := by
  unfold turn
  cases r.apply url <;> simp [Except.map]

theorem turn_eq_some_iff {id next : Text} :
    r.turn url = .ok (some (id, next)) ↔ r.apply url = .ok (some next) ∧ r.id = id := by
  unfold turn
  cases r.apply url with
  | error e => simp [Except.map]
  | ok result => cases result <;> simp [Except.map, and_comm]

theorem turn_eq_error_iff {e : ApplyError} : r.turn url = .error e ↔ r.apply url = .error e := by
  unfold turn
  cases r.apply url <;> simp [Except.map]

theorem firstMatch_cons_of_quiet (quiet : q.enabled → q.turn url = .ok none) :
    firstMatch (enabledOnly (q :: rules)) url = firstMatch (enabledOnly rules) url := by
  unfold enabledOnly
  by_cases enabled : q.enabled
  · have applied := turn_eq_none_iff.mp (quiet enabled)
    rw [List.filter_cons_of_pos enabled, firstMatch, applied]
  · rw [List.filter_cons_of_neg enabled]

theorem firstMatch_cons_of_active (enabled : q.enabled) (active : q.turn url ≠ .ok none) :
    firstMatch (enabledOnly (q :: rules)) url = q.turn url := by
  rw [Ne, turn_eq_none_iff] at active
  rw [enabledOnly, List.filter_cons_of_pos enabled, firstMatch, turn]
  cases applied : q.apply url with
  | error e => rfl
  | ok result =>
    cases result with
    | none => exact absurd applied active
    | some next => rfl

theorem firstMatch_eq_none_iff :
    firstMatch (enabledOnly rules) url = .ok none ↔ NoneApplies rules url := by
  induction rules with
  | nil => simp [enabledOnly, firstMatch]
  | cons q rules ih =>
    rw [noneApplies_cons, ← ih, ← turn_eq_none_iff]
    by_cases quiet : q.enabled → q.turn url = .ok none
    · rw [firstMatch_cons_of_quiet quiet]
      exact ⟨fun rest => ⟨quiet, rest⟩, And.right⟩
    · obtain ⟨enabled, active⟩ := Classical.not_imp.mp quiet
      rw [firstMatch_cons_of_active enabled active]
      exact ⟨fun none => absurd none active, fun both => absurd both.1 quiet⟩

/-- A round that makes a step or fails does what the first active rule does. -/
theorem firstMatch_eq_iff {result : Except ApplyError (Option (Text × Text))}
    (active : result ≠ .ok none) :
    firstMatch (enabledOnly rules) url = result ↔
      ∃ r, Tried rules url r ∧ r.turn url = result := by
  induction rules with
  | nil => simp [enabledOnly, firstMatch, not_tried_nil, active.symm]
  | cons q rules ih =>
    simp only [tried_cons, ← turn_eq_none_iff]
    by_cases quiet : q.enabled → q.turn url = .ok none
    · rw [firstMatch_cons_of_quiet quiet, ih]
      constructor
      · rintro ⟨r, tried, turned⟩
        exact ⟨r, .inr ⟨quiet, tried⟩, turned⟩
      · rintro ⟨r, ⟨rfl, enabled⟩ | ⟨_, tried⟩, turned⟩
        · exact absurd (turned.symm.trans (quiet enabled)) active
        · exact ⟨r, tried, turned⟩
    · have ⟨enabled, busy⟩ := Classical.not_imp.mp quiet
      rw [firstMatch_cons_of_active enabled busy]
      constructor
      · intro turned
        exact ⟨q, .inl ⟨rfl, enabled⟩, turned⟩
      · rintro ⟨r, ⟨rfl, _⟩ | ⟨silent, _⟩, turned⟩
        · exact turned
        · exact absurd silent quiet

/-! ## The step of a chain -/

theorem step_eq_some_iff {id next : Text} :
    step rules url = some (id, next) ↔
      ∃ r, Tried rules url r ∧ r.apply url = .ok (some next) ∧ r.id = id := by
  have found : firstMatch (enabledOnly rules) url = .ok (some (id, next)) ↔ _ :=
    firstMatch_eq_iff (by simp)
  simp only [turn_eq_some_iff] at found
  rw [← found, step]
  cases firstMatch (enabledOnly rules) url <;> simp

theorem rewrites_iff_step {next : Text} :
    Rewrites rules url next ↔ ∃ id, step rules url = some (id, next) := by
  constructor
  · rintro ⟨r, tried, applied⟩
    exact ⟨r.id, step_eq_some_iff.mpr ⟨r, tried, applied, rfl⟩⟩
  · rintro ⟨id, found⟩
    obtain ⟨r, tried, applied, _⟩ := step_eq_some_iff.mp found
    exact ⟨r, tried, applied⟩

theorem stepError?_eq_some_iff {e : ApplyError} :
    stepError? rules url = some e ↔ ∃ r, Tried rules url r ∧ r.apply url = .error e := by
  have failed : firstMatch (enabledOnly rules) url = .error e ↔ _ := firstMatch_eq_iff (by simp)
  simp only [turn_eq_error_iff] at failed
  rw [← failed, stepError?]
  cases firstMatch (enabledOnly rules) url <;> simp

/-- A round makes no step where every rule leaves the URL alone, and where one fails. -/
theorem noneApplies_iff_step :
    NoneApplies rules url ↔ step rules url = none ∧ stepError? rules url = none := by
  rw [← firstMatch_eq_none_iff, step, stepError?]
  cases firstMatch (enabledOnly rules) url <;> simp

theorem step_eq_none_of_stepError? {e : ApplyError} (failed : stepError? rules url = some e) :
    step rules url = none := by
  unfold stepError? at failed
  unfold step
  cases matched : firstMatch (enabledOnly rules) url with
  | ok found => simp [matched] at failed
  | error e => rfl

end UrlRules.Rule
