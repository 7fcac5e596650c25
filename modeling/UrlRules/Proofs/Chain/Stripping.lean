import Mathlib
import UrlRules.Proofs.Chain.Verdict
import UrlRules.Proofs.Rule.Query

/-!
# Chains of rules that strip parameters

A rule that strips parameters leaves a shorter URL, and no pair of its names. What is left of a query
holds no new pairs, so the rule never applies again, whatever other such rules do in between
(`OnlyStrips.nodup`). A chain of such rules therefore settles after at most as many steps as there are
enabled rules (`resolve_stripping`).
-/
namespace UrlRules.Rule

open Chain

/-- The rule at a position is the first enabled one that applies, and it makes the second URL of the
first. -/
def RewritesAt (rules : List Rule) (position : Nat) (url next : Text) : Prop :=
  ∃ r before after, rules = before ++ r :: after ∧ before.length = position ∧ r.enabled ∧
    NoneApplies before url ∧ r.apply url = .ok (some next)

variable {rules : List Rule} {r : Rule} {position : Nat} {url next : Text} {urls : List Text}

theorem exists_rewritesAt (rewrites : Rewrites rules url next) :
    ∃ position, RewritesAt rules position url next := by
  obtain ⟨r, ⟨enabled, before, after, split, quiet⟩, applied⟩ := rewrites
  exact ⟨before.length, r, before, after, split, rfl, enabled, quiet, applied⟩

theorem RewritesAt.rule (rewrites : RewritesAt rules position url next) :
    ∃ r, rules[position]? = some r ∧ r.enabled ∧ r.apply url = .ok (some next) := by
  obtain ⟨r, before, after, rfl, rfl, enabled, _, applied⟩ := rewrites
  exact ⟨r, by simp, enabled, applied⟩

/-! ## One step -/

/-- A rule that strips parameters removes them, or does nothing. -/
theorem remove_of_apply (strips : r.stripsParams) (applied : r.apply url = .ok (some next)) :
    Query.remove url r.removeParams = some next := by
  unfold apply at applied
  split at applied
  · split at applied <;> cases applied
  · split at applied
    · cases applied
    · rw [transform, if_pos strips] at applied
      exact Except.ok.inj applied

/-- It can only fail as its pattern does. -/
theorem apply_error_of_strips {e : ApplyError} (strips : r.stripsParams)
    (failed : r.apply url = .error e) :
    ∃ failure, Pattern.read r.pattern = .error failure ∧ failure.isInvalidPattern = false := by
  unfold apply at failed
  split at failed
  next failure read =>
    split at failed
    · cases failed
    next other => exact ⟨failure, read, by simpa using other⟩
  · split at failed
    · cases failed
    · rw [transform, if_pos strips] at failed
      cases failed

/-- What a stripping rule leaves has none of its names, and no pair that was not there before. -/
theorem pairsIn_of_apply (strips : r.stripsParams) (applied : r.apply url = .ok (some next)) :
    (∀ pair ∈ Query.pairsIn next, Query.key pair ∉ r.removeParams) ∧
      Query.pairsIn next ⊆ Query.pairsIn url := by
  have pairs := Query.pairsIn_remove (remove_of_apply strips applied)
  constructor
  · intro pair inside
    rw [pairs, List.mem_filter, Bool.and_eq_true] at inside
    exact Query.stays_iff.mp inside.2.1
  · rw [pairs]
    exact List.filter_subset_self _

/-! ## The whole chain -/

/-- All enabled rules strip parameters. -/
def OnlyStrips (rules : List Rule) : Prop := ∀ r ∈ rules, r.enabled → r.stripsParams

theorem OnlyStrips.at (only : OnlyStrips rules) (rewrites : RewritesAt rules position url next) :
    ∃ r, rules[position]? = some r ∧ r.enabled ∧ r.stripsParams ∧
      r.apply url = .ok (some next) := by
  obtain ⟨r, found, enabled, applied⟩ := rewrites.rule
  exact ⟨r, found, enabled, only r (List.mem_of_getElem? found) enabled, applied⟩

/-- Each URL is shorter than the one before it. -/
theorem OnlyStrips.shrinks (only : OnlyStrips rules) (chain : List.IsChain (Rewrites rules) urls) :
    List.IsChain (fun u v => v.length < u.length) urls := by
  refine chain.imp fun u v rewrites => ?_
  obtain ⟨position, here⟩ := exists_rewritesAt rewrites
  obtain ⟨r, _, _, strips, applied⟩ := only.at here
  exact Query.length_remove_lt (remove_of_apply strips applied)

/-- The positions of the rules that make the URLs of a chain, one after the other. -/
inductive Made (rules : List Rule) : Text → List Nat → List Text → Prop
  | nil (url : Text) : Made rules url [] []
  | cons {url next : Text} {position : Nat} {positions : List Nat} {urls : List Text}
      (first : RewritesAt rules position url next) (rest : Made rules next positions urls) :
      Made rules url (position :: positions) (next :: urls)

theorem exists_made (url : Text) (urls : List Text)
    (chain : List.IsChain (Rewrites rules) (url :: urls)) :
    ∃ positions, Made rules url positions urls := by
  induction urls generalizing url with
  | nil => exact ⟨[], .nil url⟩
  | cons next urls ih =>
    obtain ⟨first, rest⟩ := List.isChain_cons_cons.mp chain
    obtain ⟨position, here⟩ := exists_rewritesAt first
    obtain ⟨positions, made⟩ := ih next rest
    exact ⟨position :: positions, .cons here made⟩

theorem Made.length_eq {positions : List Nat} (made : Made rules url positions urls) :
    positions.length = urls.length := by
  induction made with
  | nil => rfl
  | cons _ _ ih => simp [ih]

/-- A rule that is applied somewhere on a chain finds one of its names at the start already. -/
theorem OnlyStrips.names_at_start (only : OnlyStrips rules) {positions : List Nat}
    (made : Made rules url positions urls) {r : Rule} (applied : position ∈ positions)
    (found : rules[position]? = some r) :
    ∃ pair ∈ Query.pairsIn url, Query.key pair ∈ r.removeParams := by
  induction made with
  | nil => cases applied
  | @cons url next first positions urls rewrites rest ih =>
    obtain ⟨q, foundFirst, _, strips, stripped⟩ := only.at rewrites
    rcases List.mem_cons.mp applied with rfl | later
    · obtain rfl : q = r := Option.some.inj (foundFirst.symm.trans found)
      have removed := remove_of_apply strips stripped
      by_contra absent
      have nothing := Query.remove_eq_none_iff.mpr fun pair inside named =>
        absent ⟨pair, inside, named⟩
      rw [removed] at nothing
      cases nothing
    · obtain ⟨pair, inside, named⟩ := ih later
      exact ⟨pair, (pairsIn_of_apply strips stripped).2 inside, named⟩

/-- No rule is applied twice: after the first time none of its names is left, and none comes back. -/
theorem OnlyStrips.nodup (only : OnlyStrips rules) {positions : List Nat}
    (made : Made rules url positions urls) : positions.Nodup := by
  induction made with
  | nil => exact List.nodup_nil
  | @cons url next first positions urls rewrites rest ih =>
    refine List.nodup_cons.mpr ⟨fun again => ?_, ih⟩
    obtain ⟨r, found, _, strips, stripped⟩ := only.at rewrites
    obtain ⟨pair, inside, named⟩ := only.names_at_start rest again found
    exact (pairsIn_of_apply strips stripped).1 pair inside named

theorem Made.enabled {positions : List Nat} (made : Made rules url positions urls) :
    ∀ position ∈ positions, ∃ r, rules[position]? = some r ∧ r.enabled := by
  induction made with
  | nil => simp
  | cons rewrites _ ih =>
    intro position applied
    rcases List.mem_cons.mp applied with rfl | later
    · obtain ⟨r, found, enabled, _⟩ := rewrites.rule
      exact ⟨r, found, enabled⟩
    · exact ih position later

/-- Distinct positions of enabled rules are not more than there are enabled rules. -/
theorem length_le_enabledOnly {positions : List Nat} (distinct : positions.Nodup)
    (enabled : ∀ position ∈ positions, ∃ r, rules[position]? = some r ∧ r.enabled) :
    positions.length ≤ (enabledOnly rules).length := by
  let places := (rules.zipIdx.filter fun entry => entry.1.enabled).map (·.2)
  have inside : positions ⊆ places := by
    intro position member
    obtain ⟨r, found, on⟩ := enabled position member
    refine List.mem_map.mpr ⟨(r, position), List.mem_filter.mpr ⟨?_, on⟩, rfl⟩
    exact List.mem_zipIdx_iff_getElem?.mpr found
  have count : places.length = (enabledOnly rules).length := by
    have values : (rules.zipIdx.filter fun entry => entry.1.enabled).map (·.1) = enabledOnly rules := by
      have whole : rules.zipIdx.map (·.1) = rules := List.zipIdx_map_fst 0 rules
      conv_rhs => rw [enabledOnly, ← whole, List.filter_map]
      rfl
    rw [← values]
    simp [places]
  exact count ▸ (List.subperm_of_subset distinct inside).length_le

/-- A chain on which every URL is shorter than the one before it does not come back. -/
theorem not_mem_of_shrinks {before : List Text} {back : Text}
    (shrinks : List.IsChain (fun u v => v.length < u.length) (url :: (before ++ [back]))) :
    back ∉ url :: before := by
  have transitive : IsTrans Text fun u v => v.length < u.length :=
    ⟨fun _ _ _ first second => Nat.lt_trans second first⟩
  have apart := List.isChain_iff_pairwise.mp shrinks
  rw [← List.cons_append, List.pairwise_append] at apart
  intro seen
  exact absurd (apart.2.2 back seen back (List.mem_singleton_self _)) (Nat.lt_irrefl _)

/-- A list in which every enabled rule strips parameters: each URL of a chain is shorter than the one
before it, no rule is applied at two places of the chain, and no chain loops. With a bound above the
number of enabled rules it settles. Resolving gives such a result unless a pattern fails for a cause that
does not make it invalid. -/
theorem resolve_stripping (rules : List Rule) (only : OnlyStrips rules) (bound : Int) (url : Text) :
    (∀ o, resolve rules bound url = .ok o →
      List.IsChain (fun u v => v.length < u.length) (url :: o.values) ∧
      (∃ positions, Made rules url positions o.values ∧ positions.Nodup) ∧
      o.status ≠ .circular ∧
      ((enabledOnly rules).length < bound → o.status = .notMatched ∨ o.status = .matched)) ∧
    (1 ≤ bound →
      (∀ r ∈ rules, r.enabled → ∀ e, Pattern.read r.pattern = .error e → e.isInvalidPattern) →
      ∃ o, resolve rules bound url = .ok o) := by
  constructor
  · intro o resolved
    have positive := positive_of_resolve resolved
    obtain ⟨last, walk⟩ := exists_walk_of_resolve positive resolved
    have chain : List.IsChain (Rewrites rules) (url :: o.values) := isChain_of_walk walk
    have shrinks := only.shrinks chain
    obtain ⟨positions, made⟩ := exists_made url o.values chain
    have distinct := only.nodup made
    have few := length_le_enabledOnly distinct made.enabled
    have returns : o.status ≠ .circular := by
      intro looped
      obtain ⟨_, _, before, back, split, _, seen⟩ :=
        (resolves_circular_iff positive).mp ⟨o, resolved, looped, rfl⟩
      exact not_mem_of_shrinks (split ▸ shrinks) seen
    refine ⟨shrinks, ⟨positions, made, distinct⟩, returns, fun room => ?_⟩
    cases status : o.status with
    | notMatched => exact .inl rfl
    | matched => exact .inr rfl
    | circular => exact absurd status returns
    | infinite =>
      obtain ⟨_, used, _⟩ := (resolves_infinite_iff positive).mp ⟨o, resolved, status, rfl⟩
      have steps := made.length_eq
      omega
  · intro positive sound
    cases result : resolve rules bound url with
    | ok o => exact ⟨o, rfl⟩
    | error e =>
      obtain ⟨urls, r, failure, _, _, tried, failed, _⟩ := (resolve_fails_iff positive e).mp result
      obtain ⟨enabled, before, after, split, _⟩ := tried
      have member : r ∈ rules := split ▸ by simp
      obtain ⟨cause, read, other⟩ := apply_error_of_strips (only r member enabled) failed
      rw [sound r member enabled cause read] at other
      cases other

/-- A rule that strips one parameter, named by a letter, from URLs with another letter in them. -/
def strippingRule (letter name : CodePoint) : Rule where
  id := [name]
  pattern := [letter]
  substitution := none
  removeParams := [[name]]
  enabled := true
  source := none
  examples := []

/-- `x?b&a` becomes `x?b` by the first rule, then `x` by the second, which settles below the bound. -/
theorem resolve_stripping_pair :
    let rules := [strippingRule 0x78 0x61, strippingRule 0x78 0x62]
    let o : ChainResult := ⟨.matched, [([0x61], Text.of "x?b"), ([0x62], Text.of "x")]⟩
    OnlyStrips rules ∧ resolve rules 3 (Text.of "x?b&a") = .ok o ∧
      (∃ positions, Made rules (Text.of "x?b&a") positions o.values ∧ positions.Nodup) ∧
      (o.status = .notMatched ∨ o.status = .matched) ∧
      ∃ o, resolve rules 3 (Text.of "x?b&a") = .ok o := by
  intro rules o
  have only : OnlyStrips rules := by simp [OnlyStrips, rules, strippingRule, stripsParams]
  have reads : ∃ p, Pattern.read [0x78] = .ok p := ⟨_, by cbv⟩
  have resolved : resolve rules 3 (Text.of "x?b&a") = .ok o := by cbv
  have stripping := resolve_stripping rules only 3 (Text.of "x?b&a")
  obtain ⟨_, made, _, settles⟩ := stripping.1 o resolved
  refine ⟨only, resolved, made, settles (by decide), stripping.2 (by decide) ?_⟩
  intro r member _ e failed
  obtain ⟨p, read⟩ := reads
  have pattern : r.pattern = [0x78] := by
    simp only [rules, List.mem_cons, List.not_mem_nil, or_false] at member
    rcases member with rfl | rfl <;> rfl
  rw [pattern, read] at failed
  cases failed

end UrlRules.Rule
