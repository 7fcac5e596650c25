import UrlRules.Proofs.Chain.Priority

/-!
# Raising the bound

A chain that has settled or looped within a bound ends in the same way within every larger one (`Ends.raised`).
A chain that is cut off has taken a step in every round, and a larger bound lets it go on from there
(`Ends.goesOn`). So a result other than `infinite` is final, and the others grow at their end
(`resolve_raised`).
-/
namespace UrlRules

namespace Chain

variable {α β : Type} {step : α → Option (β × α)} {start : α} {rounds more : Nat} {o : Outcome α β}

/-- The way in which a chain ends does not depend on the bound, unless it is the bound that ends it. -/
theorem Ends.raised (ends : Ends step rounds start o) (definite : o.status ≠ .infinite)
    (larger : rounds ≤ more) : Ends step more start o := by
  cases ends with
  | settled walk short stop => exact .settled walk (Nat.lt_of_lt_of_le short larger) stop
  | looped walk short distinct next seen =>
    exact .looped walk (Nat.lt_of_lt_of_le short larger) distinct next seen
  | cutOff => exact absurd rfl definite

theorem Ends.length_of_infinite (ends : Ends step rounds start o) (endless : o.status = .infinite) :
    o.steps.length = rounds := by
  cases ends with
  | @settled steps => cases steps <;> cases endless
  | looped => cases endless
  | cutOff _ used _ => exact used

/-- A chain that is cut off goes on within a larger bound. -/
theorem Ends.goesOn [DecidableEq α] (ends : Ends step rounds start o) (endless : o.status = .infinite)
    (larger : rounds ≤ more) : o.steps <+: (follow step more start).steps := by
  cases ends with
  | @settled steps => cases steps <;> cases endless
  | looped => cases endless
  | @cutOff steps last walk used distinct =>
    obtain ⟨left, rfl⟩ := Nat.exists_eq_add_of_le larger
    rw [← used, follow_walk walk left distinct]
    simpa using prefix_followFrom step start left last steps.reverse

end Chain

namespace Rule

open Chain

/-- Raising the bound never revises a definite verdict: a result that is not cut off, and a failure, stay what
they are. The URLs and the ids of a chain that is cut off, one of each for every round, are the first of those
that a larger bound produces, be it that the chain ends there or that applying one of its rules fails further
on. -/
theorem resolve_raised (rules : List Rule) (url : Text) (bound wider : Int) (positive : 1 ≤ bound)
    (larger : bound ≤ wider) :
    (∀ o, resolve rules bound url = .ok o → o.status ≠ .infinite → resolve rules wider url = .ok o) ∧
    (∀ e, resolve rules bound url = .error e → resolve rules wider url = .error e) ∧
    ∀ o, resolve rules bound url = .ok o → o.status = .infinite →
      (o.values.length : Int) = bound ∧ (o.labels.length : Int) = bound ∧
      ((∃ o', resolve rules wider url = .ok o' ∧ o.values = o'.values.take bound.toNat ∧
          o.labels = o'.labels.take bound.toNat) ∨
        ∃ steps last r failure, resolve rules wider url = .error (.apply failure) ∧
          Walk (step rules) url steps last ∧ o.steps = steps.take bound.toNat ∧
          Tried rules last r ∧ r.apply last = .error failure) := by
  have positive' : 1 ≤ wider := Int.le_trans positive larger
  have larger' : bound.toNat ≤ wider.toNat := Int.toNat_le_toNat larger
  refine ⟨fun o resolved definite => ?_, fun e failed => ?_, fun o resolved endless => ?_⟩
  · obtain ⟨ends, quiet⟩ := (resolve_eq_ok_iff positive o).mp resolved
    exact (resolve_eq_ok_iff positive' o).mpr ⟨ends.raised definite larger', quiet⟩
  · obtain ⟨o, failure, ends, settles, turned, rfl⟩ := (resolve_eq_error_iff positive e).mp failed
    have definite : o.status ≠ .infinite := by
      rcases settles with status | status <;> simp [status]
    exact (resolve_eq_error_iff positive' _).mpr
      ⟨o, failure, ends.raised definite larger', settles, turned, rfl⟩
  · obtain ⟨ends, -⟩ := (resolve_eq_ok_iff positive o).mp resolved
    have count : o.steps.length = bound.toNat := ends.length_of_infinite endless
    have first : o.steps = (follow (step rules) wider.toNat url).steps.take bound.toNat := by
      rw [← count]
      exact List.prefix_iff_eq_take.mp (ends.goesOn endless larger')
    refine ⟨by simp only [Outcome.values, List.length_map]; omega,
      by simp only [Outcome.labels, List.length_map]; omega, ?_⟩
    cases result : resolve rules wider url with
    | ok o' =>
      obtain ⟨ends', -⟩ := (resolve_eq_ok_iff positive' o').mp result
      obtain rfl := (follow_eq_iff _ _ _).mpr ends'
      exact .inl ⟨_, rfl, by rw [Outcome.values, first, List.map_take]; rfl,
        by rw [Outcome.labels, first, List.map_take]; rfl⟩
    | error e =>
      obtain ⟨o', failure, ends', settles, failed, rfl⟩ := (resolve_eq_error_iff positive' e).mp result
      obtain ⟨-, -, last, walk, -⟩ := ends_settled_status ends' settles
      obtain rfl := (follow_eq_iff _ _ _).mpr ends'
      have stopped : reached url (follow (step rules) wider.toNat url).values = last := walk.last_eq
      obtain ⟨r, tried, applied⟩ := stepError?_eq_some_iff.mp (stopped ▸ failed)
      exact .inr ⟨_, last, r, failure, rfl, walk, first, tried, applied⟩

/-- `a` becomes `b`, `b` becomes `c`, and there the chain settles. A bound of one cuts it off at `b`; the verdict
for a bound of three is that for a bound of five. -/
theorem resolve_raised_letters :
    let rules := [letterRule 0x61 0x62, letterRule 0x62 0x63]
    let o : ChainResult := ⟨.matched, [([0x61], [0x62]), ([0x62], [0x63])]⟩
    (1 : Int) ≤ 1 ∧ (1 : Int) ≤ 3 ∧ (3 : Int) ≤ 5 ∧ resolve rules 3 [0x61] = .ok o ∧
      resolve rules 5 [0x61] = .ok o ∧
      resolve rules 1 [0x61] = .ok ⟨.infinite, o.steps.take 1⟩ ∧
      ∃ o', resolve rules 3 [0x61] = .ok o' ∧ [[0x62]] = o'.values.take 1 ∧ [[0x61]] = o'.labels.take 1 := by
  intro rules o
  have cut : resolve rules 1 [0x61] = .ok ⟨.infinite, o.steps.take 1⟩ := by cbv
  have settled : resolve rules 3 [0x61] = .ok o := by cbv
  have final := (resolve_raised rules [0x61] 3 5 (by decide) (by decide)).1 o settled (by decide)
  refine ⟨by decide, by decide, by decide, settled, final, cut, ?_⟩
  obtain ⟨-, -, begun | ⟨_, _, _, _, failed, _⟩⟩ :=
    (resolve_raised rules [0x61] 1 3 (by decide) (by decide)).2.2 _ cut rfl
  · exact begun
  · rw [settled] at failed
    cases failed

end Rule
end UrlRules
