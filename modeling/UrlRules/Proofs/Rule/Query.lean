import Mathlib.Data.List.Flatten
import UrlRules.Proofs.Text.Pieces
import UrlRules.Rule.Query

/-!
# The pairs of a query

A URL is put together again from its parts (`url_parts`), and parts that hold no sign of their own are
found again in their URL (`parts_url`). So removing parameters leaves exactly the pairs that stay, without
the empty ones (`pairsIn_remove`), and it removes something exactly if a pair has one of the names
(`remove_eq_none_iff`). What is left is a subsequence of the URL and shorter (`remove_sublist`,
`length_remove_lt`), and removing some names before all of them does not matter (`remove_remove`).
`remove_exact` is the whole effect on a URL, in terms of its parts and pairs.
-/
namespace UrlRules.Query

open Text

variable {url cleaned : Text} {names : List Text}

/-! ## The parts of a URL -/

theorem cut_lead (sign : CodePoint) (s : Text) : (cut sign s).1 ++ lead sign (cut sign s).2 = s := by
  induction s with
  | nil => rfl
  | cons c s ih =>
    unfold cut
    split
    next same => simp [lead, same]
    · simpa using ih

theorem cut_append_lead {sign : CodePoint} {s : Text} (absent : sign ∉ s) (rest : Option Text) :
    cut sign (s ++ lead sign rest) = (s, rest) := by
  cases rest with
  | none => simpa [lead] using cut_of_not_mem absent
  | some t => exact cut_append absent t

theorem url_parts (url : Text) : (parts url).url = url := by
  simp only [parts, Parts.url, cut_lead]

/-- No part holds a sign that would end it. -/
structure Parts.Apart (p : Parts) : Prop where
  path_question : questionMark ∉ p.path
  path_hash : hashSign ∉ p.path
  query_hash : ∀ query ∈ p.query, hashSign ∉ query

theorem apart_parts (url : Text) : (parts url).Apart := by
  have base : hashSign ∉ (parts url).path ++ lead questionMark (parts url).query := by
    simp only [parts, cut_lead]
    exact not_mem_cut hashSign url
  refine ⟨not_mem_cut questionMark _, fun inside => base (List.mem_append_left _ inside), ?_⟩
  intro query given inside
  refine base (List.mem_append_right _ ?_)
  rw [Option.mem_def.mp given]
  exact List.mem_cons_of_mem _ inside

/-- Parts that keep apart are found again in their URL. -/
theorem parts_url {p : Parts} (apart : p.Apart) : parts p.url = p := by
  have base : hashSign ∉ p.path ++ lead questionMark p.query := by
    intro inside
    rcases List.mem_append.mp inside with path | query
    · exact apart.path_hash path
    · cases given : p.query with
      | none => simp [given, lead] at query
      | some q =>
        rw [given] at query
        rcases List.mem_cons.mp query with sign | rest
        · exact absurd sign (by decide)
        · exact apart.query_hash q given rest
  simp only [parts, Parts.url, cut_append_lead base, cut_append_lead apart.path_question]

/-- The parts of a URL are the only ones that keep apart and give the URL. -/
theorem parts_eq_iff {p : Parts} : parts url = p ↔ p.url = url ∧ p.Apart := by
  constructor
  · rintro rfl
    exact ⟨url_parts url, apart_parts url⟩
  · rintro ⟨rfl, apart⟩
    exact parts_url apart

/-! ## The pairs -/

/-- The pairs in the query of a URL. A URL without a query, or with an empty one, has none. -/
def pairsIn (url : Text) : List Text :=
  match (parts url).query with
  | none => []
  | some [] => []
  | some query => pairs query

/-- Whether a pair is kept when parameters are removed. -/
def stays (names : List Text) (pair : Text) : Bool := !names.contains (key pair)

theorem stays_iff {pair : Text} : stays names pair = true ↔ key pair ∉ names := by
  simp [stays]

/-- The pairs of a query that are left when parameters are removed. -/
def left (names : List Text) (query : Text) : List Text :=
  (pairs query).filter fun pair => stays names pair && !pair.isEmpty

theorem pairsIn_of_query {query : Text} (given : (parts url).query = some query)
    (some : query ≠ []) : pairsIn url = pairs query := by
  unfold pairsIn
  rw [given]
  cases query with
  | nil => exact absurd rfl some
  | cons => rfl

/-- The query that is left is none at all if no pair is. -/
theorem queryOf_stays (names : List Text) (query : Text) :
    queryOf ((pairs query).filter (stays names)) =
      if left names query = [] then none else some (joinWith [ampersand] (left names query)) := by
  have both : ((pairs query).filter (stays names)).filter (fun pair => !pair.isEmpty) =
      left names query := by
    rw [List.filter_filter]
    exact List.filter_congr fun pair _ => Bool.and_comm _ _
  unfold queryOf
  rw [both]
  split
  next none => rw [if_pos none]
  next some => rw [if_neg some]

/-- A URL with the pairs of a query that are left. -/
def cleanedParts (names : List Text) (url query : Text) : Parts :=
  ⟨(parts url).path, queryOf ((pairs query).filter (stays names)), (parts url).fragment⟩

theorem remove_of_query {query : Text} (given : (parts url).query = some query)
    (nonempty : query ≠ []) (names : List Text) :
    remove url names =
      if (pairs query).all (stays names) then none else some (cleanedParts names url query).url := by
  unfold remove
  simp only [given]
  cases query with
  | nil => exact absurd rfl nonempty
  | cons => rfl

/-- Nothing is removed exactly if no pair has one of the names. -/
theorem remove_eq_none_iff : remove url names = none ↔ ∀ pair ∈ pairsIn url, key pair ∉ names := by
  cases given : (parts url).query with
  | none => simp [remove, pairsIn, given]
  | some query =>
    by_cases empty : query = []
    · simp [remove, pairsIn, given, empty]
    · rw [remove_of_query given empty, pairsIn_of_query given empty]
      simp [stays_iff]

/-- Where something is removed there is a query, and one of its pairs does not stay. -/
theorem remove_eq_some (removed : remove url names = some cleaned) :
    ∃ query, (parts url).query = some query ∧ query ≠ [] ∧
      (∃ pair ∈ pairs query, stays names pair = false) ∧
      cleaned = (cleanedParts names url query).url := by
  cases given : (parts url).query with
  | none => simp [remove, given] at removed
  | some query =>
    by_cases empty : query = []
    · simp [remove, given, empty] at removed
    · rw [remove_of_query given empty] at removed
      split at removed
      · cases removed
      next some =>
        exact ⟨query, rfl, empty, by simpa using some, (Option.some.inj removed).symm⟩

theorem not_mem_of_mem_pairs {query pair : Text} {c : CodePoint} (inside : pair ∈ pairs query)
    (absent : c ∉ query) : c ∉ pair := by
  intro member
  have whole := subset_joinWith ampersand inside member
  rw [pairs, joinWith_splitOn] at whole
  exact absent whole

theorem mem_pairs_of_mem_left {query pair : Text} (inside : pair ∈ left names query) :
    pair ∈ pairs query :=
  List.mem_of_mem_filter inside

/-- What is left of a query keeps apart from the path and the fragment around it. -/
theorem apart_cleanedParts {query : Text} (given : (parts url).query = some query)
    (names : List Text) : (cleanedParts names url query).Apart := by
  have apart := apart_parts url
  refine ⟨apart.path_question, apart.path_hash, fun rest joined => ?_⟩
  rw [cleanedParts, queryOf_stays] at joined
  split at joined
  · cases joined
  · obtain rfl := Option.some.inj joined
    intro sign
    rcases mem_joinWith sign with same | ⟨pair, inside, member⟩
    · exact absurd same (by decide)
    · exact not_mem_of_mem_pairs (mem_pairs_of_mem_left inside) (apart.query_hash query given) member

/-- The pairs that are left are found again in the URL that is left. -/
theorem pairsIn_remove (removed : remove url names = some cleaned) :
    pairsIn cleaned = (pairsIn url).filter fun pair => stays names pair && !pair.isEmpty := by
  obtain ⟨query, given, nonempty, _, rfl⟩ := remove_eq_some removed
  have found := parts_url (apart_cleanedParts given names)
  rw [pairsIn_of_query given nonempty]
  change _ = left names query
  by_cases none : left names query = []
  · rw [none, pairsIn, found, cleanedParts, queryOf_stays, if_pos none]
  · have joined : (parts (cleanedParts names url query).url).query =
        some (joinWith [ampersand] (left names query)) := by
      rw [found, cleanedParts, queryOf_stays, if_neg none]
    -- No pair that is left is empty or holds an ampersand.
    have apart : ∀ pair ∈ left names query, ampersand ∉ pair := fun pair inside =>
      not_mem_of_mem_splitOn (mem_pairs_of_mem_left inside)
    have pairs_joined := splitOn_joinWith none apart
    rw [pairsIn_of_query joined, pairs, pairs_joined]
    intro empty
    rw [empty] at pairs_joined
    have blank : [] ∈ left names query := pairs_joined ▸ List.mem_singleton_self _
    simp [left] at blank

/-- Removing parameters only leaves out text. -/
theorem remove_sublist (removed : remove url names = some cleaned) : cleaned.Sublist url := by
  obtain ⟨query, given, _, _, rfl⟩ := remove_eq_some removed
  have rest : (lead questionMark (cleanedParts names url query).query).Sublist
      (lead questionMark (parts url).query) := by
    rw [cleanedParts, queryOf_stays, given]
    split
    · exact List.nil_sublist _
    · have fewer : (left names query).Sublist (pairs query) := List.filter_sublist
      have joined := joinWith_sublist ampersand fewer
      rw [pairs, joinWith_splitOn] at joined
      exact joined.cons_cons questionMark
  conv_rhs => rw [← url_parts url]
  exact (rest.append_left _).append_right _

/-- Fewer pairs are left than there were, so what is left is shorter. -/
theorem length_remove_lt (removed : remove url names = some cleaned) :
    cleaned.length < url.length := by
  obtain ⟨query, given, _, ⟨pair, inside, goes⟩, rfl⟩ := remove_eq_some removed
  have fewer : (left names query).length < (pairs query).length :=
    List.length_filter_lt_length_iff_exists.mpr ⟨pair, inside, by simp [goes]⟩
  have smaller : (left names query).flatten.length ≤ (pairs query).flatten.length :=
    (List.filter_sublist.flatten).length_le
  have whole := length_joinWith ampersand (splitOn_ne_nil ampersand query)
  rw [joinWith_splitOn] at whole
  have shorter : (lead questionMark (cleanedParts names url query).query).length <
      (lead questionMark (parts url).query).length := by
    rw [cleanedParts, queryOf_stays, given]
    by_cases none : left names query = []
    · simp [none, lead]
    · have part := length_joinWith ampersand none
      rw [if_neg none]
      simp only [lead, List.length_cons]
      simp only [pairs] at fewer smaller
      omega
  conv_rhs => rw [← url_parts url]
  simp only [Parts.url, List.length_append]
  have same : (cleanedParts names url query).path = (parts url).path := rfl
  have same' : (cleanedParts names url query).fragment = (parts url).fragment := rfl
  rw [same, same']
  omega

/-! ## Removing again -/

/-- Removing parameters only looks at the pairs, and keeps the path and the fragment. -/
theorem remove_eq (url : Text) (names : List Text) :
    remove url names =
      if (pairsIn url).all (stays names) then none
      else some (Parts.url
        ⟨(parts url).path, queryOf ((pairsIn url).filter (stays names)), (parts url).fragment⟩) := by
  cases given : (parts url).query with
  | none => simp [remove, pairsIn, given]
  | some query =>
    by_cases empty : query = []
    · simp [remove, pairsIn, given, empty]
    · rw [remove_of_query given empty, pairsIn_of_query given empty]
      rfl

/-- Only the set of names matters. -/
theorem remove_congr {others : List Text} (same : ∀ name, name ∈ names ↔ name ∈ others) :
    remove url names = remove url others := by
  have alike : stays names = stays others := by
    funext pair
    rw [Bool.eq_iff_iff, stays_iff, stays_iff, same]
  rw [remove_eq, remove_eq, alike]

/-- Only the pairs that are not empty matter to the query that is left. -/
theorem queryOf_filter_congr {test check : Text → Bool} {all : List Text}
    (alike : ∀ pair ∈ all, pair ≠ [] → test pair = check pair) :
    queryOf (all.filter test) = queryOf (all.filter check) := by
  have same : (all.filter test).filter (fun pair => !pair.isEmpty) =
      (all.filter check).filter fun pair => !pair.isEmpty := by
    rw [List.filter_filter, List.filter_filter]
    refine List.filter_congr fun pair inside => ?_
    cases pair with
    | nil => rfl
    | cons c pair => simpa using alike _ inside (List.cons_ne_nil c pair)
  rw [queryOf, queryOf, same]

/-- The path and the fragment of what is left are those of the URL. -/
theorem parts_remove (removed : remove url names = some cleaned) :
    parts cleaned = ⟨(parts url).path, queryOf ((pairsIn url).filter (stays names)), (parts url).fragment⟩ := by
  obtain ⟨query, given, nonempty, _, rfl⟩ := remove_eq_some removed
  rw [pairsIn_of_query given nonempty]
  exact parts_url (apart_cleanedParts given names)

/-- Removing some names first does not matter to removing all of them. -/
theorem remove_remove {all : List Text} (removed : remove url names = some cleaned) (among : names ⊆ all) :
    (remove cleaned all).getD cleaned = (remove url all).getD url := by
  have found := parts_remove removed
  have pairs := pairsIn_remove removed
  have narrower {pair : Text} (stay : stays all pair) : stays names pair :=
    stays_iff.mpr fun named => stays_iff.mp stay (among named)
  have goes : ¬(pairsIn url).all (stays all) := by
    intro stay
    refine absurd (remove_eq_none_iff.mpr fun pair inside => ?_) (removed ▸ Option.some_ne_none cleaned)
    exact stays_iff.mp (narrower (List.all_eq_true.mp stay pair inside))
  rw [remove_eq url all, if_neg goes, remove_eq cleaned all]
  split
  next stay =>
    -- None of the other names is left.
    have alike : ∀ pair ∈ pairsIn url, pair ≠ [] → stays names pair = stays all pair := by
      intro pair inside nonempty
      refine Bool.eq_iff_iff.mpr ⟨fun kept => List.all_eq_true.mp stay pair ?_, narrower⟩
      rw [pairs, List.mem_filter]
      exact ⟨inside, by simp [kept, nonempty]⟩
    conv_lhs => rw [Option.getD_none, ← url_parts cleaned, found, queryOf_filter_congr alike]
    rfl
  next =>
    have rest : queryOf ((pairsIn cleaned).filter (stays all)) = queryOf ((pairsIn url).filter (stays all)) := by
      rw [pairs, List.filter_filter]
      refine queryOf_filter_congr fun pair _ nonempty => ?_
      rw [Bool.eq_iff_iff]
      simpa [nonempty] using narrower
    rw [found, rest]
    rfl

/-! ## The whole effect -/

/-- The pairs that are left are those that are not empty and have none of the names. -/
theorem pairsIn_cleaned (removed : remove url names = some cleaned) :
    pairsIn cleaned = (pairsIn url).filter fun pair => pair ≠ [] ∧ key pair ∉ names := by
  rw [pairsIn_remove removed]
  refine List.filter_congr fun pair _ => ?_
  rw [Bool.eq_iff_iff, Bool.and_eq_true, stays_iff]
  simp [and_comm]

/-- Nothing is left to remove. -/
theorem remove_cleaned (removed : remove url names = some cleaned) : remove cleaned names = none := by
  refine remove_eq_none_iff.mpr fun pair inside => ?_
  rw [pairsIn_cleaned removed, List.mem_filter, decide_eq_true_iff] at inside
  exact inside.2.2

/-- The query of what is left holds the pairs that are left, and is none at all without them. -/
theorem query_remove (removed : remove url names = some cleaned) :
    if pairsIn cleaned = [] then (parts cleaned).query = none
    else ∃ rest, (parts cleaned).query = some rest ∧ pairs rest = pairsIn cleaned := by
  obtain ⟨query, given, nonempty, -, -⟩ := remove_eq_some removed
  have kept : pairsIn cleaned = left names query := by
    rw [pairsIn_remove removed, pairsIn_of_query given nonempty, left]
  have joined : (parts cleaned).query =
      if left names query = [] then none else some (joinWith [ampersand] (left names query)) := by
    rw [parts_remove removed, pairsIn_of_query given nonempty, queryOf_stays]
  rw [kept, joined]
  split
  · rfl
  next some =>
    exact ⟨_, rfl, splitOn_joinWith some fun pair inside =>
      not_mem_of_mem_splitOn (mem_pairs_of_mem_left inside)⟩

/-- Removing parameters is exact. Nothing is removed exactly if the URL has no query, or an empty one, or one in
which no pair has one of the names. Where something is removed, the path and the fragment stay, the pairs are
those that are not empty and have none of the names, in their order, and without any the query is gone. What is
left is shorter, and has nothing more to remove. -/
theorem remove_exact (url : Text) (names : List Text) :
    (remove url names = none ↔
      (parts url).query = none ∨ (parts url).query = some [] ∨
        ∃ query, (parts url).query = some query ∧ ∀ pair ∈ pairs query, key pair ∉ names) ∧
    ∀ cleaned, remove url names = some cleaned →
      ∃ query kept, (parts url).query = some query ∧
        kept = (pairs query).filter (fun pair => pair ≠ [] ∧ key pair ∉ names) ∧
        (parts cleaned).path = (parts url).path ∧
        (parts cleaned).fragment = (parts url).fragment ∧
        (if kept = [] then (parts cleaned).query = none
          else ∃ rest, (parts cleaned).query = some rest ∧ pairs rest = kept) ∧
        cleaned.length < url.length ∧ remove cleaned names = none := by
  refine ⟨?_, fun cleaned removed => ?_⟩
  · rw [remove_eq_none_iff]
    cases given : (parts url).query with
    | none => simp [pairsIn, given]
    | some query =>
      by_cases empty : query = []
      · simp [pairsIn, given, empty]
      · rw [pairsIn_of_query given empty]
        simp [empty]
  · obtain ⟨query, given, nonempty, -, -⟩ := remove_eq_some removed
    have kept := pairsIn_cleaned removed
    rw [pairsIn_of_query given nonempty] at kept
    refine ⟨query, pairsIn cleaned, given, kept, ?_, ?_, query_remove removed, length_remove_lt removed,
      remove_cleaned removed⟩
    · rw [parts_remove removed]
    · rw [parts_remove removed]

/-- Without `a`, `x?%61=?&&b&a#?a` is `x?b#?a`. -/
theorem remove_exact_encoded :
    let url := Text.of "x?%61=?&&b&a#?a"
    let cleaned := Text.of "x?b#?a"
    remove url [Text.of "a"] = some cleaned ∧
      (parts cleaned).path = (parts url).path ∧ (parts cleaned).fragment = (parts url).fragment ∧
      cleaned.length < url.length ∧ remove cleaned [Text.of "a"] = none := by
  have removed : remove (Text.of "x?%61=?&&b&a#?a") [Text.of "a"] = some (Text.of "x?b#?a") := by cbv
  intro url cleaned
  obtain ⟨_, _, _, _, path, fragment, _, shorter, final⟩ := (remove_exact url [Text.of "a"]).2 cleaned removed
  exact ⟨removed, path, fragment, shorter, final⟩

end UrlRules.Query
