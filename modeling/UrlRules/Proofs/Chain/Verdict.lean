import Mathlib
import UrlRules.Proofs.Chain.Course
import UrlRules.Proofs.Chain.Round
import UrlRules.Proofs.Rule.Check

/-!
# The verdict on a chain

The chain of a URL is the list of URLs that `Rewrites` leads through, one after the other. Resolving a
URL classifies its chain: `resolve_verdict` says for each status exactly which chains get it, when
resolving fails, and that the ids are those of the rules that made the URLs.

The chain is followed as a `Walk`, which is a chain of URLs with the ids of the rules. A chain that
settles or fails needs no test for loops, since no URL occurs twice on it.
-/
namespace UrlRules.Rule

open Chain

/-- Where a chain of URLs has got to. -/
def reached (url : Text) (urls : List Text) : Text := urls.getLast?.getD url

/-- Resolving the URL gives a status and the URLs produced. -/
def Resolves (rules : List Rule) (bound : Int) (url : Text) (status : Status)
    (urls : List Text) : Prop :=
  ∃ o, resolve rules bound url = .ok o ∧ o.status = status ∧ o.values = urls

variable {rules : List Rule} {bound : Int} {url : Text} {urls : List Text}

@[simp] theorem reached_cons (url next : Text) (urls : List Text) :
    reached url (next :: urls) = reached next urls := by
  simp [reached, List.getLast?_cons]

/-- The last step of a chain starts where the others have got to. -/
theorem isChain_snoc {R : Text → Text → Prop} {before : List Text} {back : Text} :
    List.IsChain R (url :: (before ++ [back])) ↔
      List.IsChain R (url :: before) ∧ R (reached url before) back := by
  induction before generalizing url with
  | nil => simp [reached]
  | cons next before ih => simp only [List.cons_append, List.isChain_cons_cons, ih, reached_cons, and_assoc]

/-- A walk without its ids is a chain of URLs. -/
theorem isChain_of_walk {u v : Text} {steps : List (Text × Text)}
    (walk : Walk (step rules) u steps v) :
    List.IsChain (Rewrites rules) (u :: steps.map (·.2)) := by
  induction walk with
  | nil _ => exact .singleton _
  | cons first _ ih => exact .cons_cons (rewrites_iff_step.mpr ⟨_, first⟩) ih

/-- Every chain of URLs is a walk without its ids. -/
theorem exists_walk_of_isChain (u : Text) (urls : List Text)
    (chain : List.IsChain (Rewrites rules) (u :: urls)) :
    ∃ steps, steps.map (·.2) = urls ∧ Walk (step rules) u steps (reached u urls) := by
  induction urls generalizing u with
  | nil => exact ⟨[], rfl, .nil u⟩
  | cons v urls ih =>
    obtain ⟨first, rest⟩ := List.isChain_cons_cons.mp chain
    obtain ⟨id, first⟩ := rewrites_iff_step.mp first
    obtain ⟨steps, values, walk⟩ := ih v rest
    refine ⟨(id, v) :: steps, by simp [values], ?_⟩
    rw [reached_cons]
    exact .cons first walk

/-- Each step of a walk is made by the first rule that applies, and bears its id. -/
theorem walk_step {u v : Text} {steps : List (Text × Text)} (walk : Walk (step rules) u steps v)
    (i : Nat) (inside : i < steps.length) :
    ∃ r before after, (u :: steps.map (·.2))[i]? = some before ∧
      (steps.map (·.2))[i]? = some after ∧ (steps.map (·.1))[i]? = some r.id ∧
      Tried rules before r ∧ r.apply before = .ok (some after) := by
  induction walk generalizing i with
  | nil _ => simp at inside
  | @cons u x v label steps first rest ih =>
    cases i with
    | zero =>
      obtain ⟨r, tried, applied, rfl⟩ := step_eq_some_iff.mp first
      exact ⟨r, u, x, rfl, rfl, rfl, tried, applied⟩
    | succ i =>
      have inside : i < steps.length := by simpa using inside
      simpa using ih i inside

/-! ## Resolving -/

/-- Whether the chain came to a value that has no step. -/
def Settles (o : ChainResult) : Prop := o.status = .notMatched ∨ o.status = .matched

theorem resolve_of_positive (rules : List Rule) (url : Text) (positive : 1 ≤ bound) :
    resolve rules bound url =
      let o := follow (step rules) bound.toNat url
      if o.status = .notMatched ∨ o.status = .matched then
        match stepError? rules (reached url o.values) with
        | some e => .error (.apply e)
        | none => .ok o
      else .ok o := by
  rw [resolve, if_neg (by omega)]
  rfl

theorem positive_of_resolve {o : ChainResult} (resolved : resolve rules bound url = .ok o) :
    1 ≤ bound := by
  by_contra below
  rw [resolve, if_pos (by omega)] at resolved
  cases resolved

theorem resolve_eq_ok_iff (positive : 1 ≤ bound) (o : ChainResult) :
    resolve rules bound url = .ok o ↔
      Ends (step rules) bound.toNat url o ∧
        (Settles o → stepError? rules (reached url o.values) = none) := by
  rw [resolve_of_positive rules url positive, ← follow_eq_iff]
  dsimp only
  split
  next settles =>
    cases failed : stepError? rules (reached url (follow (step rules) bound.toNat url).values) with
    | none =>
      simp only [Except.ok.injEq]
      exact ⟨fun same => ⟨same, fun _ => same ▸ failed⟩, And.left⟩
    | some e =>
      simp only [reduceCtorEq, false_iff, not_and]
      rintro rfl quiet
      rw [quiet settles] at failed
      cases failed
  next moves =>
    simp only [Except.ok.injEq]
    exact ⟨fun same => ⟨same, fun settles => absurd (same ▸ settles) moves⟩, And.left⟩

theorem resolve_eq_error_iff (positive : 1 ≤ bound) (e : ResolveError) :
    resolve rules bound url = .error e ↔
      ∃ o failure, Ends (step rules) bound.toNat url o ∧ Settles o ∧
        stepError? rules (reached url o.values) = some failure ∧ e = .apply failure := by
  simp only [resolve_of_positive rules url positive, ← follow_eq_iff, Settles]
  constructor
  · intro failed
    split at failed
    next settles =>
      split at failed
      next failure found =>
        exact ⟨_, failure, rfl, settles, found, (Except.error.inj failed).symm⟩
      next => cases failed
    next => cases failed
  · rintro ⟨o, failure, rfl, settles, found, rfl⟩
    rw [if_pos settles, found]

/-! ## The verdicts -/

theorem ends_settled_status {step : Text → Option (Text × Text)} {n : Nat} {o : ChainResult}
    (ends : Ends step n url o) (settles : Settles o) :
    (o.status = .notMatched ↔ o.values = []) ∧ o.steps.length < n ∧
      ∃ last, Walk step url o.steps last ∧ step last = none := by
  cases ends with
  | @settled steps last walk short stop =>
    refine ⟨?_, short, last, walk, stop⟩
    cases steps <;> simp [Outcome.values]
  | looped => simp [Settles] at settles
  | cutOff => simp [Settles] at settles

/-- The chain settles inside the bound, without a step or after some. -/
theorem resolves_settled_iff (positive : 1 ≤ bound) {status : Status}
    (settles : status = .notMatched ∨ status = .matched) :
    Resolves rules bound url status urls ↔
      (status = .notMatched ↔ urls = []) ∧ List.IsChain (Rewrites rules) (url :: urls) ∧
        (urls.length : Int) < bound ∧ NoneApplies rules (reached url urls) := by
  constructor
  · rintro ⟨o, resolved, rfl, rfl⟩
    obtain ⟨ends, quiet⟩ := (resolve_eq_ok_iff positive o).mp resolved
    obtain ⟨status, short, last, walk, stop⟩ := ends_settled_status ends settles
    have stopped : reached url o.values = last := walk.last_eq
    refine ⟨status, isChain_of_walk walk, ?_, ?_⟩
    · simp only [Outcome.values, List.length_map]
      omega
    · exact noneApplies_iff_step.mpr ⟨stopped ▸ stop, quiet settles⟩
  · rintro ⟨empty, chain, short, none⟩
    obtain ⟨steps, rfl, walk⟩ := exists_walk_of_isChain url urls chain
    obtain ⟨stop, quiet⟩ := noneApplies_iff_step.mp none
    rw [List.length_map] at short
    have ends : Ends (step rules) bound.toNat url _ := .settled walk (by omega) stop
    have resolved := (resolve_eq_ok_iff positive _).mpr ⟨ends, fun _ => quiet⟩
    refine ⟨_, resolved, ?_, rfl⟩
    cases steps <;> rcases settles with rfl | rfl <;> simp_all

theorem resolves_circular_iff (positive : 1 ≤ bound) :
    Resolves rules bound url .circular urls ↔
      List.IsChain (Rewrites rules) (url :: urls) ∧ (urls.length : Int) ≤ bound ∧
        ∃ before back, urls = before ++ [back] ∧ (url :: before).Nodup ∧ back ∈ url :: before := by
  constructor
  · rintro ⟨o, resolved, status, rfl⟩
    obtain ⟨ends, _⟩ := (resolve_eq_ok_iff positive o).mp resolved
    cases ends with
    | @settled steps => split at status <;> cases status
    | @looped steps last back label walk short distinct next seen =>
      refine ⟨isChain_of_walk (walk.snoc next), ?_, steps.map (·.2), back, ?_, distinct, seen⟩
      · simp only [Outcome.values, List.length_map, List.length_append, List.length_singleton]
        omega
      · simp [Outcome.values]
    | cutOff => cases status
  · rintro ⟨chain, short, before, back, rfl, distinct, seen⟩
    obtain ⟨chain, final⟩ := isChain_snoc.mp chain
    obtain ⟨id, next⟩ := rewrites_iff_step.mp final
    obtain ⟨steps, rfl, walk⟩ := exists_walk_of_isChain url before chain
    simp only [List.length_append, List.length_map, List.length_singleton] at short
    have ends : Ends (step rules) bound.toNat url _ :=
      .looped walk (by omega) distinct next seen
    refine ⟨_, (resolve_eq_ok_iff positive _).mpr ⟨ends, by simp [Settles]⟩, rfl, ?_⟩
    simp [Outcome.values]

theorem resolves_infinite_iff (positive : 1 ≤ bound) :
    Resolves rules bound url .infinite urls ↔
      List.IsChain (Rewrites rules) (url :: urls) ∧ (urls.length : Int) = bound ∧
        (url :: urls).Nodup := by
  constructor
  · rintro ⟨o, resolved, status, rfl⟩
    obtain ⟨ends, _⟩ := (resolve_eq_ok_iff positive o).mp resolved
    cases ends with
    | @settled steps => split at status <;> cases status
    | looped => cases status
    | @cutOff steps last walk used distinct =>
      refine ⟨isChain_of_walk walk, ?_, distinct⟩
      simp only [Outcome.values, List.length_map]
      omega
  · rintro ⟨chain, used, distinct⟩
    obtain ⟨steps, rfl, walk⟩ := exists_walk_of_isChain url urls chain
    rw [List.length_map] at used
    have ends : Ends (step rules) bound.toNat url _ := .cutOff walk (by omega) distinct
    exact ⟨_, (resolve_eq_ok_iff positive _).mpr ⟨ends, by simp [Settles]⟩, rfl, rfl⟩

/-- Resolving fails where a round fails before the bound is used up. -/
theorem resolve_fails_iff (positive : 1 ≤ bound) (e : ResolveError) :
    resolve rules bound url = .error e ↔
      ∃ urls r failure, List.IsChain (Rewrites rules) (url :: urls) ∧
        (urls.length : Int) < bound ∧ Tried rules (reached url urls) r ∧
        r.apply (reached url urls) = .error failure ∧ e = .apply failure := by
  rw [resolve_eq_error_iff positive]
  constructor
  · rintro ⟨o, failure, ends, settles, failed, rfl⟩
    obtain ⟨_, short, last, walk, _⟩ := ends_settled_status ends settles
    obtain ⟨r, tried, applied⟩ := stepError?_eq_some_iff.mp failed
    refine ⟨o.values, r, failure, isChain_of_walk walk, ?_, tried, applied, rfl⟩
    simp only [Outcome.values, List.length_map]
    omega
  · rintro ⟨urls, r, failure, chain, short, tried, applied, rfl⟩
    have failed := stepError?_eq_some_iff.mpr ⟨r, tried, applied⟩
    obtain ⟨steps, rfl, walk⟩ := exists_walk_of_isChain url urls chain
    rw [List.length_map] at short
    have ends : Ends (step rules) bound.toNat url _ :=
      .settled walk (by omega) (step_eq_none_of_stepError? failed)
    refine ⟨_, failure, ends, ?_, failed, rfl⟩
    unfold Settles
    cases steps <;> simp

/-- The steps of a result are a walk, however the chain ends. -/
theorem exists_walk_of_resolve (positive : 1 ≤ bound) {o : ChainResult}
    (resolved : resolve rules bound url = .ok o) : ∃ last, Walk (step rules) url o.steps last := by
  obtain ⟨ends, _⟩ := (resolve_eq_ok_iff positive o).mp resolved
  cases ends with
  | settled walk _ _ => exact ⟨_, walk⟩
  | looped walk _ _ next _ => exact ⟨_, walk.snoc next⟩
  | cutOff walk _ _ => exact ⟨_, walk⟩

/-- The exact classification of chains. The URLs of a result are a chain from the URL resolved, and the
status says how the chain ends: it settles at once, it settles after fewer rewrites than the bound, its
last URL is the first that was seen before, or all URLs up to the bound are distinct, whether a further
round would rewrite the last one or not. The id beside each URL is that of the rule that made it.
Resolving fails only where applying the rule whose turn it is fails. -/
theorem resolve_verdict (rules : List Rule) (url : Text) (bound : Int) (positive : 1 ≤ bound) :
    (∀ urls, Resolves rules bound url .notMatched urls ↔ urls = [] ∧ NoneApplies rules url) ∧
    (∀ urls, Resolves rules bound url .matched urls ↔
      List.IsChain (Rewrites rules) (url :: urls) ∧ 1 ≤ urls.length ∧ (urls.length : Int) < bound ∧
        NoneApplies rules (reached url urls)) ∧
    (∀ urls, Resolves rules bound url .circular urls ↔
      List.IsChain (Rewrites rules) (url :: urls) ∧ (urls.length : Int) ≤ bound ∧
        ∃ before back, urls = before ++ [back] ∧ (url :: before).Nodup ∧ back ∈ url :: before) ∧
    (∀ urls, Resolves rules bound url .infinite urls ↔
      List.IsChain (Rewrites rules) (url :: urls) ∧ (urls.length : Int) = bound ∧
        (url :: urls).Nodup) ∧
    (∀ o, resolve rules bound url = .ok o →
      o.labels.length = o.values.length ∧ o.final? = o.values.getLast? ∧
      ∀ i < o.values.length, ∃ r before after, (url :: o.values)[i]? = some before ∧
        o.values[i]? = some after ∧ o.labels[i]? = some r.id ∧
        Tried rules before r ∧ r.apply before = .ok (some after)) ∧
    (∀ e, resolve rules bound url = .error e ↔
      ∃ urls r failure, List.IsChain (Rewrites rules) (url :: urls) ∧
        (urls.length : Int) < bound ∧ Tried rules (reached url urls) r ∧
        r.apply (reached url urls) = .error failure ∧ e = .apply failure) := by
  refine ⟨fun urls => ?_, fun urls => ?_, fun urls => resolves_circular_iff positive,
    fun urls => resolves_infinite_iff positive, fun o resolved => ?_, resolve_fails_iff positive⟩
  · rw [resolves_settled_iff positive (.inl rfl)]
    constructor
    · rintro ⟨empty, _, _, none⟩
      obtain rfl := empty.mp rfl
      exact ⟨rfl, none⟩
    · rintro ⟨rfl, none⟩
      exact ⟨by simp, .singleton _, by simpa using Int.lt_of_lt_of_le Int.zero_lt_one positive, none⟩
  · rw [resolves_settled_iff positive (.inr rfl)]
    have nonempty : (Status.matched = .notMatched ↔ urls = []) ↔ 1 ≤ urls.length := by
      cases urls <;> simp
    rw [nonempty]
    exact ⟨fun ⟨moved, chain, rest⟩ => ⟨chain, moved, rest⟩,
      fun ⟨chain, moved, rest⟩ => ⟨moved, chain, rest⟩⟩
  · obtain ⟨last, walk⟩ := exists_walk_of_resolve positive resolved
    refine ⟨by simp [Outcome.labels, Outcome.values], rfl, fun i inside => ?_⟩
    exact walk_step walk i (by simpa [Outcome.values] using inside)

/-- `a` becomes `b` and `b` becomes `a` again, in the last round of two. -/
theorem resolve_verdict_loop :
    (1 : Int) ≤ 2 ∧
      List.IsChain (Rewrites [letterRule 0x61 0x62, letterRule 0x62 0x61])
        [[0x61], [0x62], [0x61]] ∧
      ∃ before back, [[0x62], [0x61]] = before ++ [back] ∧ ([0x61] :: before).Nodup ∧
        back ∈ [0x61] :: before := by
  have resolved : resolve [letterRule 0x61 0x62, letterRule 0x62 0x61] 2 [0x61] =
      .ok ⟨.circular, [([0x61], [0x62]), ([0x62], [0x61])]⟩ := by cbv
  have verdict := resolve_verdict [letterRule 0x61 0x62, letterRule 0x62 0x61] [0x61] 2 (by decide)
  obtain ⟨chain, _, back⟩ := (verdict.2.2.1 _).mp ⟨_, resolved, rfl, rfl⟩
  exact ⟨by decide, chain, back⟩

end UrlRules.Rule
