import UrlRules.Proofs.Chain.Verdict

/-!
# Rules of lower priority

Rules added at the end of a list can only extend its chains. Where the shorter list has a rule that
applies, both lists apply the same one, so the two chains run in lock step (`followFrom_lockstep`) until
the shorter list settles. A chain that loops or is cut off never settles, and is the same for both.
-/
namespace UrlRules

namespace Chain

variable {α β : Type} [DecidableEq α] {step wider : α → Option (β × α)}

/-- A chain keeps the steps it has taken. -/
theorem prefix_followFrom (step : α → Option (β × α)) (start : α) (rounds : Nat) (current : α)
    (steps : List (β × α)) :
    steps.reverse <+: (followFrom step start rounds current steps).steps := by
  induction rounds generalizing current steps with
  | zero => exact List.prefix_rfl
  | succ rounds ih =>
    unfold followFrom
    cases step current with
    | none => exact List.prefix_rfl
    | some found =>
      obtain ⟨label, v⟩ := found
      have longer : steps.reverse <+: ((label, v) :: steps).reverse := by simp
      dsimp only
      split
      · exact longer
      · exact longer.trans (ih v ((label, v) :: steps))

/-- Two chains where the second step function makes every step of the first and perhaps more: they are
equal if the first one does not settle, and the first is a part of the second if it does. -/
theorem followFrom_lockstep (extends' : ∀ u found, step u = some found → wider u = some found)
    (start : α) (rounds : Nat) (current : α) (steps : List (β × α)) :
    let o := followFrom step start rounds current steps
    let o' := followFrom wider start rounds current steps
    (o.status = .circular ∨ o.status = .infinite → o' = o) ∧ o.steps <+: o'.steps := by
  induction rounds generalizing current steps with
  | zero => exact ⟨fun _ => rfl, List.prefix_rfl⟩
  | succ rounds ih =>
    cases first : step current with
    | none =>
      -- The first chain settles here; the other one may go on.
      have settles : followFrom step start (rounds + 1) current steps =
          ⟨if steps.isEmpty then .notMatched else .matched, steps.reverse⟩ := by
        simp only [followFrom, first]
      rw [settles]
      refine ⟨fun moves => ?_, prefix_followFrom wider start (rounds + 1) current steps⟩
      cases steps <;> simp at moves
    | some found =>
      obtain ⟨label, v⟩ := found
      have second := extends' current (label, v) first
      simp only [followFrom, first, second]
      split
      · exact ⟨fun _ => rfl, List.prefix_rfl⟩
      · exact ih v ((label, v) :: steps)

end Chain

namespace Rule

open Chain

variable {rules lower : List Rule} {bound : Int} {url : Text}

theorem Tried.append {r : Rule} (tried : Tried rules url r) (lower : List Rule) :
    Tried (rules ++ lower) url r := by
  obtain ⟨enabled, before, after, rfl, quiet⟩ := tried
  exact ⟨enabled, before, after ++ lower, by simp, quiet⟩

theorem step_append (rules lower : List Rule) (u : Text) (found : Text × Text)
    (first : step rules u = some found) : step (rules ++ lower) u = some found := by
  obtain ⟨id, next⟩ := found
  obtain ⟨r, tried, applied, same⟩ := step_eq_some_iff.mp first
  exact step_eq_some_iff.mpr ⟨r, tried.append lower, applied, same⟩

/-- Rules of lower priority can only extend a chain. A chain that loops or is cut off stays the same with
them. One that settles becomes the beginning of the longer list's chain, both in its URLs and in the ids
of the rules; the longer list gives a result unless applying one of its rules fails further on. -/
theorem resolve_append (rules lower : List Rule) (bound : Int) (url : Text) (o : ChainResult)
    (resolved : resolve rules bound url = .ok o) :
    (o.status = .circular ∨ o.status = .infinite →
      resolve (rules ++ lower) bound url = .ok o) ∧
    (o.status = .notMatched ∨ o.status = .matched →
      (∃ o', resolve (rules ++ lower) bound url = .ok o' ∧
        o.values <+: o'.values ∧ o.labels <+: o'.labels) ∨
      ∃ urls r failure, resolve (rules ++ lower) bound url = .error (.apply failure) ∧
        List.IsChain (Rewrites (rules ++ lower)) (url :: urls) ∧ o.values <+: urls ∧
        Tried (rules ++ lower) (reached url urls) r ∧
        r.apply (reached url urls) = .error failure) := by
  have positive := positive_of_resolve resolved
  obtain ⟨ends, _⟩ := (resolve_eq_ok_iff positive o).mp resolved
  obtain rfl := (follow_eq_iff _ _ _).mpr ends
  obtain ⟨same, longer⟩ := followFrom_lockstep (step_append rules lower) url bound.toNat url []
  constructor
  · intro moves
    refine (resolve_eq_ok_iff positive _).mpr ⟨(follow_eq_iff _ _ _).mp (same moves), ?_⟩
    intro settles
    rcases moves with moves | moves <;> simp [Settles, moves] at settles
  · intro _
    cases result : resolve (rules ++ lower) bound url with
    | ok o' =>
      obtain ⟨ends', _⟩ := (resolve_eq_ok_iff positive o').mp result
      obtain rfl := (follow_eq_iff _ _ _).mpr ends'
      exact .inl ⟨_, rfl, longer.map _, longer.map _⟩
    | error e =>
      obtain ⟨o', failure, ends', settles, failed, rfl⟩ := (resolve_eq_error_iff positive e).mp result
      obtain ⟨_, _, last, walk, _⟩ := ends_settled_status ends' settles
      obtain ⟨r, tried, applied⟩ := stepError?_eq_some_iff.mp failed
      obtain rfl := (follow_eq_iff _ _ _).mpr ends'
      exact .inr ⟨_, r, failure, rfl, isChain_of_walk walk, longer.map _, tried, applied⟩

/-- With a second rule behind the first one, the chain `a`, `b` goes on to `c`. -/
theorem resolve_append_extended :
    resolve [letterRule 0x61 0x62] 5 [0x61] = .ok ⟨.matched, [([0x61], [0x62])]⟩ ∧
      ∃ o', resolve ([letterRule 0x61 0x62] ++ [letterRule 0x62 0x63]) 5 [0x61] = .ok o' ∧
        [[0x62]] <+: o'.values ∧ [[0x61]] <+: o'.labels := by
  have resolved : resolve [letterRule 0x61 0x62] 5 [0x61] =
      .ok ⟨.matched, [([0x61], [0x62])]⟩ := by cbv
  have longer : resolve ([letterRule 0x61 0x62] ++ [letterRule 0x62 0x63]) 5 [0x61] =
      .ok ⟨.matched, [([0x61], [0x62]), ([0x62], [0x63])]⟩ := by cbv
  refine ⟨resolved, ?_⟩
  rcases (resolve_append [letterRule 0x61 0x62] [letterRule 0x62 0x63] 5 [0x61] _ resolved).2
    (.inr rfl) with extended | ⟨_, _, _, failed, _⟩
  · exact extended
  · rw [longer] at failed
    cases failed

end Rule
end UrlRules
