import UrlRules.Proofs.Chain.Round

/-!
# Rules that make no difference

Resolving a URL depends only on what the rounds give (`resolve_congr`). So a rule that leaves every URL alone, or is
not enabled, might as well be left out of the list, wherever it stands: one whose text is no pattern
(`resolve_without_unreadable`), and one that is turned off (`resolve_turnedOff`).
-/
namespace UrlRules.Rule

variable {rules others before after : List Rule} {r : Rule} {url : Text}

/-- Lists of rules that give the same in every round resolve URLs alike. -/
theorem resolve_congr (same : ∀ url, firstMatch (enabledOnly rules) url = firstMatch (enabledOnly others) url)
    (bound : Int) (url : Text) : resolve rules bound url = resolve others bound url := by
  have step : step rules = step others := funext fun url => by rw [Rule.step, Rule.step, same]
  have stepError : stepError? rules = stepError? others :=
    funext fun url => by rw [stepError?, stepError?, same]
  rw [resolve, resolve, step, stepError]

/-- Rules that are not enabled make no difference. -/
theorem resolve_enabledOnly (rules : List Rule) (rounds : Int) (url : Text) :
    resolve (enabledOnly rules) rounds url = resolve rules rounds url :=
  resolve_congr (fun url => by simp [enabledOnly]) rounds url

theorem firstMatch_without (quiet : r.enabled → r.apply url = .ok none) (before after : List Rule) :
    firstMatch (enabledOnly (before ++ r :: after)) url = firstMatch (enabledOnly (before ++ after)) url := by
  induction before with
  | nil => exact firstMatch_cons_of_quiet fun enabled => turn_eq_none_iff.mpr (quiet enabled)
  | cons q before ih =>
    rw [List.cons_append, List.cons_append]
    by_cases silent : q.enabled → q.turn url = .ok none
    · rw [firstMatch_cons_of_quiet silent, firstMatch_cons_of_quiet silent, ih]
    · obtain ⟨enabled, active⟩ := Classical.not_imp.mp silent
      rw [firstMatch_cons_of_active enabled active, firstMatch_cons_of_active enabled active]

/-- A rule that is no pattern leaves every URL alone. -/
theorem apply_of_unreadable {e : Pattern.Error} (failed : Pattern.read r.pattern = .error e)
    (invalid : e.isInvalidPattern) (url : Text) : r.apply url = .ok none := by
  rw [apply, failed]
  simp [invalid]

theorem resolve_without_unreadable {e : Pattern.Error} (failed : Pattern.read r.pattern = .error e)
    (invalid : e.isInvalidPattern) (before after : List Rule) (bound : Int) (url : Text) :
    resolve (before ++ r :: after) bound url = resolve (before ++ after) bound url :=
  resolve_congr (fun url => firstMatch_without (fun _ => apply_of_unreadable failed invalid url) before after)
    bound url

/-! ## Turning rules off -/

/-- The rules, with the one with an id turned on or off. -/
def toggled (id : Text) (value : Bool) (rules : List Rule) : List Rule :=
  rules.map fun r => if r.id = id then { r with enabled := value } else r

@[simp] theorem ids_toggled (id : Text) (value : Bool) (rules : List Rule) :
    (toggled id value rules).map (·.id) = rules.map (·.id) := by
  rw [toggled, List.map_map]
  refine List.map_congr_left fun r _ => ?_
  by_cases named : r.id = id <;> simp [named]

theorem enabledOnly_toggled (id : Text) (rules : List Rule) :
    enabledOnly (toggled id false rules) = enabledOnly (rules.filter fun r => r.id ≠ id) := by
  induction rules with
  | nil => rfl
  | cons r rules ih =>
    simp only [enabledOnly, toggled, List.filter_filter] at ih ⊢
    by_cases named : r.id = id <;> simp [named, List.filter_cons, ih]

/-- A rule that is turned off might as well be deleted. -/
theorem resolve_turnedOff (id : Text) (rules : List Rule) (bound : Int) (url : Text) :
    resolve (toggled id false rules) bound url = resolve (rules.filter fun r => r.id ≠ id) bound url :=
  resolve_congr (fun url => by rw [enabledOnly_toggled]) bound url

/-- Turning a rule off and on again gives the same rules if it was on. -/
theorem toggled_toggled {id : Text} (on : ∀ r ∈ rules, r.id = id → r.enabled) :
    toggled id true (toggled id false rules) = rules := by
  rw [toggled, toggled, List.map_map]
  refine (List.map_congr_left fun r member => ?_).trans (List.map_id rules)
  by_cases named : r.id = id
  · have enabled := on r member named
    simp only [Function.comp_apply, if_pos named]
    rw [← enabled]
    rfl
  · simp [named]

end UrlRules.Rule
