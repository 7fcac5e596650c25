import Mathlib
import UrlRules.Proofs.Chain.Stripping
import UrlRules.Provider.Name

/-!
# Rules for every URL are confluent

A rule that strips parameters from every URL is tried with success exactly where one of its names is left. What it
leaves has still to lose the other names, and nothing else: removing all names at once from what it leaves gives
the same as removing them from the URL itself (`OnlyGlobal.cleared_of_rewrites`). So such rules lead to the same
URL in every order, the one without all of their names (`resolve_global`).
-/
namespace UrlRules.Rule

open Chain

variable {rules : List Rule} {r : Rule} {bound : Int} {url next : Text} {urls : List Text}

/-- All enabled rules strip parameters from every URL. -/
def OnlyGlobal (rules : List Rule) : Prop :=
  ∀ r ∈ rules, r.enabled → r.stripsParams ∧ r.pattern = Provider.anyUrl

/-- The names of all enabled rules. -/
def parameters (rules : List Rule) : List Text := (enabledOnly rules).flatMap (·.removeParams)

/-- A URL without the parameters of the given names. -/
def cleared (names : List Text) (url : Text) : Text := (Query.remove url names).getD url

theorem OnlyGlobal.strips (only : OnlyGlobal rules) : OnlyStrips rules :=
  fun r member enabled => (only r member enabled).1

theorem mem_parameters {name : Text} :
    name ∈ parameters rules ↔ ∃ r ∈ rules, r.enabled ∧ name ∈ r.removeParams := by
  simp [parameters, enabledOnly, and_assoc]

/-- The pattern of every URL is found in every text. -/
theorem search_anyUrl :
    ∃ p, Pattern.read Provider.anyUrl = .ok p ∧ ∀ s, ∃ m, p.search s = some m := by
  refine ⟨⟨.loop .greedy 0 none .any, {}, 0, []⟩, by cbv, fun s => ?_⟩
  have accepts (extra : Nat) (point : Pattern.Point) :
      Pattern.tryBackwards some extra point = some point := by
    cases extra <;> rfl
  unfold Pattern.search Pattern.searchFrom
  simp [Pattern.startsBefore, Pattern.lead?, Pattern.Node.lead?, Pattern.matchAt, Pattern.Node.run,
    Pattern.Node.isUnit, Pattern.loopUnits, accepts]

/-! ## One step -/

/-- A rule for every URL removes its parameters wherever they are. -/
theorem OnlyGlobal.apply_eq (only : OnlyGlobal rules) (member : r ∈ rules) (enabled : r.enabled) (url : Text) :
    r.apply url = .ok (Query.remove url r.removeParams) := by
  obtain ⟨strips, pattern⟩ := only r member enabled
  obtain ⟨p, reads, found⟩ := search_anyUrl
  obtain ⟨m, found⟩ := found url
  simp only [apply, pattern, reads, found, transform, strips, if_true]

/-- None of the rules applies exactly where none of their names is left. -/
theorem OnlyGlobal.noneApplies_iff (only : OnlyGlobal rules) :
    NoneApplies rules url ↔ Query.remove url (parameters rules) = none := by
  constructor
  · intro quiet
    refine Query.remove_eq_none_iff.mpr fun pair inside named => ?_
    obtain ⟨r, member, enabled, named⟩ := mem_parameters.mp named
    have absent := quiet r member enabled
    rw [only.apply_eq member enabled, Except.ok.injEq] at absent
    exact Query.remove_eq_none_iff.mp absent pair inside named
  · intro absent r member enabled
    rw [only.apply_eq member enabled, Except.ok.injEq]
    refine Query.remove_eq_none_iff.mpr fun pair inside named => ?_
    exact Query.remove_eq_none_iff.mp absent pair inside (mem_parameters.mpr ⟨r, member, enabled, named⟩)

/-- What a rule leaves loses the other names as the URL itself does. -/
theorem OnlyGlobal.cleared_of_rewrites (only : OnlyGlobal rules) (rewrites : Rewrites rules url next) :
    cleared (parameters rules) next = cleared (parameters rules) url := by
  obtain ⟨r, ⟨enabled, before, after, split, _⟩, applied⟩ := rewrites
  have member : r ∈ rules := split ▸ by simp
  rw [only.apply_eq member enabled, Except.ok.injEq] at applied
  exact Query.remove_remove applied fun name named => mem_parameters.mpr ⟨r, member, enabled, named⟩

/-! ## The whole chain -/

theorem OnlyGlobal.cleared_reached (only : OnlyGlobal rules) (chain : List.IsChain (Rewrites rules) (url :: urls)) :
    cleared (parameters rules) (reached url urls) = cleared (parameters rules) url := by
  induction urls generalizing url with
  | nil => rfl
  | cons next urls ih =>
    obtain ⟨first, rest⟩ := List.isChain_cons_cons.mp chain
    rw [reached_cons, ih rest, only.cleared_of_rewrites first]

/-- A chain of rules that strip parameters settles if the bound is above their number. -/
theorem OnlyStrips.settles (only : OnlyStrips rules) {o : ChainResult} (resolved : resolve rules bound url = .ok o)
    (room : ((enabledOnly rules).length : Int) < bound) : Settles o := by
  have positive := positive_of_resolve resolved
  cases status : o.status with
  | notMatched => exact .inl status
  | matched => exact .inr status
  | circular =>
    obtain ⟨chain, _, before, back, split, _, seen⟩ :=
      (resolves_circular_iff positive).mp ⟨o, resolved, status, rfl⟩
    exact absurd seen (not_mem_of_shrinks (only.shrinks (split ▸ chain)))
  | infinite =>
    obtain ⟨chain, used, _⟩ := (resolves_infinite_iff positive).mp ⟨o, resolved, status, rfl⟩
    obtain ⟨positions, made⟩ := exists_made url o.values chain
    have few := length_le_enabledOnly (only.nodup made) made.enabled
    have steps := made.length_eq
    omega

/-- Resolving ends at the URL without all names of the rules. -/
theorem OnlyGlobal.resolves (only : OnlyGlobal rules) (room : ((enabledOnly rules).length : Int) < bound)
    (url : Text) :
    ∃ o, resolve rules bound url = .ok o ∧ Settles o ∧
      (o.status = .notMatched ↔ Query.remove url (parameters rules) = none) ∧
      o.final?.getD url = cleared (parameters rules) url := by
  have positive : 1 ≤ bound := by omega
  cases result : resolve rules bound url with
  | error e =>
    obtain ⟨urls, r, failure, _, _, ⟨enabled, _, _, split, _⟩, failed, _⟩ :=
      (resolve_fails_iff positive e).mp result
    rw [only.apply_eq (split ▸ by simp) enabled] at failed
    cases failed
  | ok o =>
    have settles := only.strips.settles result room
    obtain ⟨ends, _⟩ := (resolve_eq_ok_iff positive o).mp result
    obtain ⟨unmatched, _, _⟩ := ends_settled_status ends settles
    obtain ⟨_, chain, _, quiet⟩ := (resolves_settled_iff positive settles).mp ⟨o, result, rfl, rfl⟩
    have absent := only.noneApplies_iff.mp quiet
    refine ⟨o, rfl, settles, unmatched.trans ⟨fun none => ?_, fun absent => ?_⟩, ?_⟩
    · rwa [none] at absent
    · cases moved : o.values with
      | nil => rfl
      | cons next urls =>
        rw [moved] at chain
        obtain ⟨r, ⟨enabled, before, after, split, _⟩, applied⟩ := (List.isChain_cons_cons.mp chain).1
        have still := only.noneApplies_iff.mpr absent r (split ▸ by simp) enabled
        rw [applied] at still
        cases still
    · have left := only.cleared_reached chain
      rw [cleared, absent] at left
      exact left

/-- Rules that strip parameters from every URL lead to the same URL in every order, if the bound is above their
number: the one without all of their names. It is the URL itself exactly if it has none of them. -/
theorem resolve_global (rules others : List Rule) (same : rules.Perm others) (only : OnlyGlobal rules) (bound : Int)
    (room : ((enabledOnly rules).length : Int) < bound) (url : Text) :
    ∃ o o', resolve rules bound url = .ok o ∧ resolve others bound url = .ok o' ∧ Settles o ∧ Settles o' ∧
      (o.status = .notMatched ↔ Query.remove url (parameters rules) = none) ∧ o.status = o'.status ∧
      o.final?.getD url = o'.final?.getD url ∧
      o.final?.getD url = (Query.remove url (parameters rules)).getD url := by
  have only' : OnlyGlobal others := fun r member => only r (same.mem_iff.mpr member)
  have names : Query.remove url (parameters rules) = Query.remove url (parameters others) :=
    Query.remove_congr fun name => by simp only [mem_parameters, same.mem_iff]
  have count : (enabledOnly rules).length = (enabledOnly others).length := (same.filter _).length_eq
  obtain ⟨o, resolved, settles, unmatched, final⟩ := only.resolves room url
  obtain ⟨o', resolved', settles', unmatched', final'⟩ := only'.resolves (count ▸ room) url
  have clear : cleared (parameters rules) url = cleared (parameters others) url := congrArg (·.getD url) names
  have status : o.status = o'.status := by
    have alike : o.status = .notMatched ↔ o'.status = .notMatched := by rw [unmatched, unmatched', names]
    rcases settles with none | moved <;> rcases settles' with none' | moved' <;> simp_all
  exact ⟨o, o', resolved, resolved', settles, settles', unmatched, status,
    final.trans (clear.trans final'.symm), final⟩

/-- A rule that strips one parameter, named by a letter, from every URL. -/
def globalRule (name : CodePoint) : Rule := { strippingRule 0 name with pattern := Provider.anyUrl }

/-- Both orders take `a` and `b` out of `x?b&&a&c`, on different ways. -/
theorem resolve_global_pair :
    let rules := [globalRule 0x61, globalRule 0x62]
    let others := [globalRule 0x62, globalRule 0x61]
    rules.Perm others ∧ OnlyGlobal rules ∧ ((enabledOnly rules).length : Int) < 3 ∧
      resolve rules 3 (Text.of "x?b&&a&c") =
        .ok ⟨.matched, [([0x61], Text.of "x?b&c"), ([0x62], Text.of "x?c")]⟩ ∧
      resolve others 3 (Text.of "x?b&&a&c") =
        .ok ⟨.matched, [([0x62], Text.of "x?a&c"), ([0x61], Text.of "x?c")]⟩ ∧
      ∃ o o', resolve rules 3 (Text.of "x?b&&a&c") = .ok o ∧ resolve others 3 (Text.of "x?b&&a&c") = .ok o' ∧
        o.final?.getD (Text.of "x?b&&a&c") = o'.final?.getD (Text.of "x?b&&a&c") ∧
        o.final?.getD (Text.of "x?b&&a&c") =
          (Query.remove (Text.of "x?b&&a&c") (parameters rules)).getD (Text.of "x?b&&a&c") := by
  intro rules others
  have same : rules.Perm others := List.Perm.swap _ _ _
  have only : OnlyGlobal rules := by simp [OnlyGlobal, rules, globalRule, strippingRule, stripsParams]
  obtain ⟨o, o', resolved, resolved', _, _, _, _, alike, clear⟩ :=
    resolve_global rules others same only 3 (by decide) (Text.of "x?b&&a&c")
  exact ⟨same, only, by decide, by cbv, by cbv, o, o', resolved, resolved', alike, clear⟩

end UrlRules.Rule
