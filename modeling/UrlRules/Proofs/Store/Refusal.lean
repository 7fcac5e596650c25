import UrlRules.Proofs.Store.Actions

/-!
# Refused actions

An action on a store where everything is committed commits nothing unless it succeeds, and nothing new either if
its result says that there was nothing to do (`AllOrNothing`).
-/
namespace UrlRules.Store

open Text

/-- What is committed stays as it is. -/
structure Leaves (s s' : Store) : Prop where
  medium : s'.medium = s.medium
  saved : s'.saved = s.saved

/-- Unless the action has a result that says something else, it leaves what is committed. -/
def AllOrNothing {α : Type} (action : Action α) (nothing : α → Prop) : Prop :=
  ∀ s, s.Usable → s.saved = s.rows → ∀ result s', action.run s = (result, s') →
    (∀ a, result = .ok a → nothing a) → Leaves s s'

variable {s : Store} {rules : List Rule} {first : Bool} {id : Text}

theorem leaves_opened (s : Store) : Leaves s s.opened := ⟨rfl, rfl⟩

/-! ## Reading -/

theorem list_allOrNothing : AllOrNothing list fun _ => True := by
  intro s usable _ result s' ran _
  rw [run_list usable] at ran
  cases ran
  exact leaves_opened s

theorem enabled_allOrNothing : AllOrNothing enabled fun _ => True := by
  intro s usable _ result s' ran _
  rw [run_enabled usable] at ran
  cases ran
  exact leaves_opened s

theorem find_leaves (usable : s.Usable) (id : Text) : ((find id).run s).2 = s.opened := by
  cases scalar : isScalar id with
  | false => rw [run_find_unencodable usable scalar]
  | true => rw [run_find usable scalar]

/-! ## Changing -/

theorem insertAll_allOrNothing (rules : List Rule) (first : Bool) :
    AllOrNothing (insertAll rules first) fun _ => rules = [] := by
  intro s usable _ result s' ran failed
  by_cases given : rules = []
  · subst given
    cases ran
    exact ⟨rfl, rfl⟩
  obtain ⟨e, refused, -⟩ | ⟨-, -, refused⟩ | ⟨start, -, -, -, -, adds⟩ := insertAll_cases usable given first
  · rw [refused] at ran
    cases ran
    exact leaves_opened s
  · rw [refused] at ran
    cases ran
    exact ⟨rfl, rfl⟩
  · rw [adds] at ran
    obtain ⟨rows, left⟩ := run_addRows_adds start ((List.range rules.length).zip rules) s.opened
    rcases added : (addRows start ((List.range rules.length).zip rules)).run s.opened with ⟨answer, between⟩
    rw [added] at ran left
    dsimp only at left
    subst left
    cases answer with
    | ok _ =>
      cases ran
      exact absurd (failed () rfl) given
    | error e =>
      cases ran
      exact ⟨rfl, rfl⟩

theorem change_allOrNothing (attempt : Attempt) (id : Text) (texts : List Text) (edit : Row → Row) :
    AllOrNothing (change attempt id texts edit) fun _ => False := by
  intro s usable committed result s' ran failed
  cases encodable : Row.unencodable? (texts ++ [id]) with
  | some text =>
    rw [run_change_unencodable usable attempt id encodable] at ran
    cases ran
    exact leaves_opened s
  | none =>
    rw [run_change usable attempt id encodable] at ran
    cases found : s.rows.any (hasId id) with
    | true =>
      simp only [found, if_true] at ran
      cases ran
      exact (failed () rfl).elim
    | false =>
      -- The rows are committed once more, and none of them has changed.
      have same : (s.rows.map fun row => if hasId id row then edit row else row) = s.rows := by
        refine (List.map_congr_left fun row member => ?_).trans (List.map_id' _)
        have other : hasId id row = false := by simpa using List.any_eq_false.mp found row member
        simp [other]
      simp only [found, same] at ran
      cases ran
      exact ⟨rfl, committed.symm⟩

theorem delete_allOrNothing (id : Text) : AllOrNothing (delete id) (· = false) := by
  intro s usable committed result s' ran failed
  cases scalar : isScalar id with
  | false =>
    rw [run_delete_unencodable usable scalar] at ran
    cases ran
    exact leaves_opened s
  | true =>
    rw [run_delete usable scalar] at ran
    cases ran
    have none : s.rows.any (hasId id) = false := failed _ rfl
    have same : (s.rows.filter fun row => !hasId id row) = s.rows := by
      refine List.filter_eq_self.mpr fun row member => ?_
      have other : hasId id row = false := by simpa using List.any_eq_false.mp none row member
      simp [other]
    refine ⟨rfl, ?_⟩
    rw [committed]
    exact same

end UrlRules.Store
