import Mathlib
import UrlRules.Proofs.Chain.Stripping
import UrlRules.Proofs.Pattern.Search

/-!
# Chains of rules that clean

A rule that strips parameters or erases its matches only leaves out text, so each URL of a chain of such rules is
a subsequence of the one before it. It is shorter as long as no URL comes back. Since the last URL of a chain is
a subsequence of all of them, only the URL that has just been left can come back, and only by a rule that erases
nothing but empty matches (`Cleans.of_circular`). Every chain ends after at most as many rounds as the URL has
characters (`resolve_cleaning`).
-/
namespace UrlRules.Rule

open Chain

variable {rules : List Rule} {r : Rule} {bound : Int} {url next back : Text} {urls before : List Text}

/-- No enabled rule puts new text in. -/
def OnlyCleans (rules : List Rule) : Prop :=
  ∀ r ∈ rules, r.enabled → ∀ template ∈ r.substitution, template = []

/-- The rule erases its matches from a URL, and there is none but empty ones, so that it leaves the URL as it is. -/
structure ErasesNothing (r : Rule) (url : Text) (p : Pattern) : Prop where
  cleans : r.stripsParams = false
  reads : Pattern.read r.pattern = .ok p
  same : r.apply url = .ok (some url)
  found : p.erased url ≠ []
  empty : ∀ m ∈ p.erased url, m.first = m.last

/-! ## One step -/

/-- A rule without a template strips its parameters or erases its matches. -/
theorem apply_cases (cleans : ∀ template ∈ r.substitution, template = [])
    (applied : r.apply url = .ok (some next)) :
    (r.stripsParams ∧ Query.remove url r.removeParams = some next) ∨
      ∃ p m, r.stripsParams = false ∧ Pattern.read r.pattern = .ok p ∧ p.search url = some m ∧
        next = p.erase url := by
  cases strips : r.stripsParams with
  | true => exact .inl ⟨rfl, remove_of_apply strips applied⟩
  | false =>
    unfold apply at applied
    split at applied
    · split at applied <;> cases applied
    next p reads =>
      split at applied
      · cases applied
      next m found =>
        refine .inr ⟨p, m, rfl, reads, found, ?_⟩
        rw [transform, if_neg (by simp [strips])] at applied
        split at applied
        next c template given => cases cleans _ given
        · simpa using applied.symm

theorem apply_sublist (cleans : ∀ template ∈ r.substitution, template = [])
    (applied : r.apply url = .ok (some next)) : next.Sublist url := by
  obtain ⟨_, removed⟩ | ⟨p, _, _, _, _, rfl⟩ := apply_cases cleans applied
  · exact Query.remove_sublist removed
  · exact p.erase_sublist url

/-- A rule that makes the same URL again has erased nothing. -/
theorem exists_erasesNothing (cleans : ∀ template ∈ r.substitution, template = [])
    (applied : r.apply url = .ok (some url)) : ∃ p, ErasesNothing r url p := by
  obtain ⟨_, removed⟩ | ⟨p, m, erases, reads, found, same⟩ := apply_cases cleans applied
  · exact absurd (Query.length_remove_lt removed) (Nat.lt_irrefl _)
  · exact ⟨p, erases, reads, applied, List.ne_nil_of_mem (Pattern.erased_of_search found),
      Pattern.erase_eq_self_iff.mp same.symm⟩

/-- It can only fail as its pattern does. -/
theorem apply_error_of_cleans {e : ApplyError} (cleans : ∀ template ∈ r.substitution, template = [])
    (failed : r.apply url = .error e) :
    ∃ failure, Pattern.read r.pattern = .error failure ∧ failure.isInvalidPattern = false := by
  unfold apply at failed
  split at failed
  next failure read =>
    split at failed
    · cases failed
    next other => exact ⟨failure, read, by simpa using other⟩
  · split at failed
    · cases failed
    · unfold transform at failed
      split at failed
      · cases failed
      · split at failed
        next c template given => cases cleans _ given
        · cases failed

/-! ## The whole chain -/

theorem OnlyCleans.tried (only : OnlyCleans rules) (tried : Tried rules url r) :
    ∀ template ∈ r.substitution, template = [] := by
  obtain ⟨enabled, _, _, split, _⟩ := tried
  exact only r (split ▸ by simp) enabled

/-- Each URL is a subsequence of the one before it. -/
theorem OnlyCleans.sublists (only : OnlyCleans rules) (chain : List.IsChain (Rewrites rules) urls) :
    List.IsChain (fun u v => v.Sublist u) urls := by
  refine chain.imp fun u v rewrites => ?_
  obtain ⟨r, tried, applied⟩ := rewrites
  exact apply_sublist (only.tried tried) applied

/-- As long as no URL comes back, each is shorter than the one before it. -/
theorem shrinks_of_nodup (sublists : List.IsChain (fun u v : Text => v.Sublist u) urls) (distinct : urls.Nodup) :
    List.IsChain (fun u v => v.length < u.length) urls := by
  induction sublists with
  | nil => exact .nil
  | singleton u => exact .singleton u
  | @cons_cons u v urls part _ ih =>
    obtain ⟨new, distinct⟩ := List.nodup_cons.mp distinct
    refine .cons_cons (Nat.lt_of_le_of_ne part.length_le fun same => ?_) (ih distinct)
    exact new (part.eq_of_length same ▸ List.mem_cons_self ..)

/-- Where each URL is shorter than the one before it, there are no more of them than the first has characters. -/
theorem length_le_of_shrinks (shrinks : List.IsChain (fun u v : Text => v.length < u.length) (url :: urls)) :
    urls.length ≤ url.length := by
  induction urls generalizing url with
  | nil => exact Nat.zero_le _
  | cons next urls ih =>
    obtain ⟨first, rest⟩ := List.isChain_cons_cons.mp shrinks
    exact Nat.lt_of_le_of_lt (ih rest) first

/-- The URL that a chain has reached is a subsequence of all URLs on it. -/
theorem reached_sublist (sublists : List.IsChain (fun u v : Text => v.Sublist u) (url :: urls)) :
    ∀ u ∈ url :: urls, (reached url urls).Sublist u := by
  induction urls generalizing url with
  | nil =>
    intro u member
    obtain rfl := List.mem_singleton.mp member
    exact .refl _
  | cons next urls ih =>
    obtain ⟨first, rest⟩ := List.isChain_cons_cons.mp sublists
    rw [reached_cons]
    intro u member
    rcases List.mem_cons.mp member with rfl | later
    · exact (ih rest next (List.mem_cons_self ..)).trans first
    · exact ih rest u later

/-- Only the URL that has just been left comes back. -/
theorem eq_reached_of_back (sublists : List.IsChain (fun u v : Text => v.Sublist u) (url :: (before ++ [back])))
    (seen : back ∈ url :: before) : back = reached url before := by
  obtain ⟨sublists, last⟩ := isChain_snoc.mp sublists
  exact last.antisymm (reached_sublist sublists back seen)

/-- Up to the last one, the URLs of a result are distinct. -/
theorem nodup_of_resolve {o : ChainResult} (resolved : resolve rules bound url = .ok o) :
    (url :: o.values.dropLast).Nodup := by
  have whole {steps : List (Text × Text)} (distinct : (url :: steps.map (·.2)).Nodup) :
      (url :: (steps.map (·.2)).dropLast).Nodup :=
    distinct.sublist ((List.dropLast_sublist _).cons_cons url)
  obtain ⟨ends, _⟩ := (resolve_eq_ok_iff (positive_of_resolve resolved) o).mp resolved
  cases ends with
  | settled walk _ stop => exact whole (walk.nodup_of_settled stop)
  | looped _ _ distinct _ _ => simpa [Outcome.values] using distinct
  | cutOff _ _ distinct => exact whole distinct

/-- A chain that comes back has just been left as it was. -/
theorem OnlyCleans.of_circular (only : OnlyCleans rules)
    (chain : List.IsChain (Rewrites rules) (url :: (before ++ [back]))) (seen : back ∈ url :: before) :
    back = reached url before ∧ ∃ r p, Tried rules back r ∧ ErasesNothing r back p := by
  have same := eq_reached_of_back (only.sublists chain) seen
  obtain ⟨_, r, tried, applied⟩ := isChain_snoc.mp chain
  rw [← same] at tried applied
  obtain ⟨p, nothing⟩ := exists_erasesNothing (only.tried tried) applied
  exact ⟨same, r, p, tried, nothing⟩

/-- A list in which no enabled rule puts new text in: each URL of a chain is a subsequence of the one before it,
and all but possibly the last are shorter. A chain loops only where its last step has left the URL as it was, by
a rule that erases nothing but empty matches. With a bound above the length of the URL no chain is cut off.
Resolving gives such a result unless a pattern fails for a cause that does not make it invalid. -/
theorem resolve_cleaning (rules : List Rule) (only : OnlyCleans rules) (bound : Int) (url : Text) :
    (∀ o, resolve rules bound url = .ok o →
      List.IsChain (fun u v => v.Sublist u) (url :: o.values) ∧
      List.IsChain (fun u v => v.length < u.length) (url :: o.values.dropLast) ∧
      (o.status = .circular → ∃ before back r p, o.values = before ++ [back] ∧ back = reached url before ∧
        Tried rules back r ∧ ErasesNothing r back p) ∧
      ((url.length : Int) < bound → o.status ≠ .infinite)) ∧
    (1 ≤ bound →
      (∀ r ∈ rules, r.enabled → ∀ e, Pattern.read r.pattern = .error e → e.isInvalidPattern) →
      ∃ o, resolve rules bound url = .ok o) := by
  constructor
  · intro o resolved
    have positive := positive_of_resolve resolved
    obtain ⟨last, walk⟩ := exists_walk_of_resolve positive resolved
    have chain : List.IsChain (Rewrites rules) (url :: o.values) := isChain_of_walk walk
    have sublists := only.sublists chain
    have first : List.IsChain (fun u v : Text => v.Sublist u) (url :: o.values.dropLast) :=
      List.IsChain.prefix sublists ((List.prefix_cons_inj url).mpr (List.dropLast_prefix _))
    have shorter := shrinks_of_nodup first (nodup_of_resolve resolved)
    refine ⟨sublists, shorter, fun looped => ?_, fun room cut => ?_⟩
    · obtain ⟨_, _, before, back, split, _, seen⟩ :=
        (resolves_circular_iff positive).mp ⟨o, resolved, looped, rfl⟩
      obtain ⟨same, r, p, tried, nothing⟩ := only.of_circular (split ▸ chain) seen
      exact ⟨before, back, r, p, split, same, tried, nothing⟩
    · obtain ⟨_, used, distinct⟩ := (resolves_infinite_iff positive).mp ⟨o, resolved, cut, rfl⟩
      have few := length_le_of_shrinks (shrinks_of_nodup sublists distinct)
      omega
  · intro positive sound
    cases result : resolve rules bound url with
    | ok o => exact ⟨o, rfl⟩
    | error e =>
      obtain ⟨urls, r, failure, _, _, tried, failed, _⟩ := (resolve_fails_iff positive e).mp result
      obtain ⟨cause, read, other⟩ := apply_error_of_cleans (only.tried tried) failed
      obtain ⟨enabled, before, after, split, _⟩ := tried
      rw [sound r (split ▸ by simp) enabled cause read] at other
      cases other

/-- A rule that erases its matches. -/
def erasingRule (id pattern : Text) : Rule where
  id := id
  pattern := pattern
  substitution := some []
  removeParams := []
  enabled := true
  source := none
  examples := []

/-- `xb?a` loses its parameter, then its `b`, and then `b*` has none but empty matches in `x`. -/
theorem resolve_cleaning_loop :
    let rules := [strippingRule 0x78 0x61, erasingRule [0x62] (Text.of "b*")]
    let o : ChainResult :=
      ⟨.circular, [([0x61], Text.of "xb"), ([0x62], Text.of "x"), ([0x62], Text.of "x")]⟩
    OnlyCleans rules ∧ resolve rules 5 (Text.of "xb?a") = .ok o ∧
      List.IsChain (fun u v => v.length < u.length) (Text.of "xb?a" :: o.values.dropLast) ∧
      (∃ before back r p, o.values = before ++ [back] ∧ back = reached (Text.of "xb?a") before ∧
        Tried rules back r ∧ ErasesNothing r back p) ∧
      ∃ o, resolve rules 5 (Text.of "xb?a") = .ok o := by
  intro rules o
  have only : OnlyCleans rules := by simp [OnlyCleans, rules, strippingRule, erasingRule]
  have reads : ∀ r ∈ rules, ∃ p, Pattern.read r.pattern = .ok p := by
    simp only [rules, List.mem_cons, List.not_mem_nil, or_false, forall_eq_or_imp, forall_eq]
    exact ⟨⟨_, by cbv⟩, ⟨_, by cbv⟩⟩
  have resolved : resolve rules 5 (Text.of "xb?a") = .ok o := by cbv
  have cleaning := resolve_cleaning rules only 5 (Text.of "xb?a")
  obtain ⟨_, shorter, loops, _⟩ := cleaning.1 o resolved
  refine ⟨only, resolved, shorter, loops rfl, cleaning.2 (by decide) ?_⟩
  intro r member _ e failed
  obtain ⟨p, read⟩ := reads r member
  rw [read] at failed
  cases failed

end UrlRules.Rule
