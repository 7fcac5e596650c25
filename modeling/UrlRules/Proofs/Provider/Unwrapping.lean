import UrlRules.Proofs.Provider.Origins
import UrlRules.Proofs.Rule.Format
import UrlRules.Proofs.Rule.Template

/-!
# Redirections are unwrapped

The rule of a redirection has the template `$1`, whatever its pattern is. So a URL in which the pattern is found is
replaced by the decoded text of the first group, if the pattern has one (`apply_unwraps`). A pattern without groups
leaves the reference as it stands, and every such URL becomes `$1` (`apply_unwraps_limits`).
-/
namespace UrlRules.Provider.ClearUrls

open Text

variable {name : Text} {fields : List (Text × Json)} {url : Text} {n : Numbered} {listing : Listing}

/-! ## The rule of a redirection -/

/-- A rule of a list comes from the item under its number. -/
theorem Listing.exists_item_of_mem (member : n ∈ listing.numbered name fields) :
    ∃ place, n.number = listing.first fields + place ∧ (listing.items fields)[place]? = some (.text n.pattern) ∧
      (∃ p, Pattern.read n.pattern = .ok p) ∧ n.behaviour = .expand listing.template := by
  obtain ⟨⟨item, number⟩, placed, made⟩ := List.mem_filterMap.mp member
  obtain ⟨pattern, given, rfl⟩ := Option.map_eq_some_iff.mp made
  obtain ⟨rfl, -, reads⟩ := patternOf?_eq_some_iff.mp given
  obtain ⟨above, stands⟩ := List.mk_mem_zipIdx_iff_le_and_getElem?_sub.mp placed
  exact ⟨number - listing.first fields, (Nat.add_sub_cancel' above).symm, stands, reads, rfl⟩

theorem Listing.kind_of_mem (member : n ∈ listing.numbered name fields) : n.kind = listing.kind := by
  obtain ⟨⟨item, number⟩, -, made⟩ := List.mem_filterMap.mp member
  obtain ⟨pattern, -, rfl⟩ := Option.map_eq_some_iff.mp made
  rfl

theorem kind_of_mem_stripping (member : n ∈ stripping name fields url) : n.kind = .params ∨ n.kind = .referral := by
  obtain ⟨⟨⟨kind, names⟩, number⟩, placed, made⟩ := List.mem_filterMap.mp member
  obtain ⟨pattern, -, rfl⟩ := Option.map_eq_some_iff.mp made
  obtain ⟨⟨kind', field⟩, listed, given⟩ := List.mem_filterMap.mp (List.fst_mem_of_mem_zipIdx placed)
  have known : kind' = .params ∨ kind' = .referral := by
    simp only [List.mem_cons, Prod.mk.injEq, List.not_mem_nil, or_false] at listed
    exact listed.imp And.left And.left
  dsimp only at given
  split at given
  · cases given
  · obtain ⟨rfl, -⟩ := Prod.mk.inj (Option.some.inj given)
    exact known

/-- Only redirections give rules of their kind. -/
theorem mem_redirections_of_kind (member : n ∈ numbered name fields url) (kind : n.kind = .redirect) :
    n ∈ Listing.redirections.numbered name fields := by
  rcases List.mem_append.mp member with listed | stripped
  · rcases List.mem_append.mp listed with own | raw
    · exact own
    · exact absurd (kind.symm.trans (Listing.kind_of_mem raw)) (by decide)
  · rcases kind_of_mem_stripping stripped with params | referral
    · exact absurd (kind.symm.trans params) (by decide)
    · exact absurd (kind.symm.trans referral) (by decide)

/-! ## Applying it -/

/-- What the template of a redirection makes of a match. -/
theorem expansion_first (p : Pattern) (m : Pattern.Match) :
    Rule.expansion Listing.redirections.template p m url =
      .ok (some (if 1 ≤ p.groups then ((m.group? 1).map Percent.decode).getD [] else Text.of "$1")) := by
  have one : Template.IsNumeral (Text.of "1") := ⟨by decide, by decide, by decide⟩
  have number : Template.number (Text.of "1") = 1 := by decide
  have expanded : Template.expandMatch Listing.redirections.template p m =
      .ok (Template.referred p.groups m.group? (Text.of "1") (Text.of "$1")) :=
    Template.expand_written one false
  rw [Rule.expansion, if_neg (by decide), expanded, Template.referred, number]
  simp only [Nat.le_refl, true_and]

/-- The rule of a redirection replaces a URL in which its pattern is found by the decoded text of the first group of
the first match, which is empty if the group did not take part. If the pattern has no group, it puts its template as it
stands. -/
theorem apply_unwraps (name : Text) (provider : Json) (normalized : Normalized) (r : Rule) (number : Nat)
    (given : normalizeProvider name provider = .ok normalized) (member : r ∈ normalized.rules)
    (redirect : r.id = ruleId (idStart name) .redirect number) :
    ∃ fields p, provider = .object fields ∧
      (Listing.redirections.items fields)[number]? = some (.text r.pattern) ∧ Pattern.read r.pattern = .ok p ∧
      ∀ url m, p.search url = some m →
        (1 ≤ p.groups → r.apply url = .ok (some (((m.group? 1).map Percent.decode).getD []))) ∧
        (p.groups = 0 → r.apply url = .ok (some (Text.of "$1"))) := by
  have valid := (wellTyped_of_normalizeProvider given member).valid
  rw [rules_eq_numberedOf given] at member
  obtain ⟨n, inside, rfl⟩ := List.mem_map.mp member
  obtain ⟨fields, url, rfl, -, own⟩ := exists_fields_of_mem inside
  obtain ⟨-, kind, same⟩ := ruleId_injective (n.id_rule.symm.trans redirect)
  obtain ⟨place, numbers, stands, ⟨p, reads⟩, behaviour⟩ :=
    Listing.exists_item_of_mem (mem_redirections_of_kind own kind)
  have pattern : n.rule.pattern = n.pattern := by rw [Numbered.rule, behaviour]; rfl
  have template : n.rule.substitution = some Listing.redirections.template := by rw [Numbered.rule, behaviour]; rfl
  obtain rfl : number = place := by simpa [← same, Listing.first] using numbers
  obtain ⟨-, _, substitution, applies⟩ := Rule.expands_of_some valid template
  obtain rfl := Option.some.inj (template.symm.trans substitution)
  rw [← pattern] at stands reads
  refine ⟨fields, p, rfl, stands, reads, fun url m found => ?_⟩
  have applied := applies p url reads
  rw [found] at applied
  dsimp only at applied
  rw [expansion_first] at applied
  constructor
  · intro some
    rw [applied, if_pos some]
  · intro none
    rw [applied, if_neg (by omega)]

/-- A provider with one redirection. -/
def redirecting (pattern : Text) : Json :=
  .object [(Text.of "urlPattern", .text (Text.of "u")), (Text.of "redirections", .list [.text pattern])]

/-- Its rule. -/
def redirection (pattern : Text) : Rule :=
  ⟨Text.of "clearurls-p-redirect-0", pattern, some (Text.of "$1"), [], true, some (Text.of "clearurls"), []⟩

/-- The pattern `=(.*)`, which takes what follows an equals sign. -/
def valuePattern : Pattern where
  root := .seq (.char 0x3D) (.group (some 1) {} {} (.loop .greedy 0 none .any))
  flags := {}
  groups := 1
  widths := [⟨0, Pattern.Width.unbounded⟩]

/-- Its match in a URL with the encoded target `a/b`. -/
def valueMatch : Pattern.Match := ⟨Text.of "s?u=a%2Fb", 3, 9, [⟨1, false, 4⟩, ⟨1, true, 9⟩]⟩

/-- The target is decoded. -/
theorem apply_unwraps_value :
    normalizeProvider (Text.of "p") (redirecting (Text.of "=(.*)")) = .ok ⟨[redirection (Text.of "=(.*)")], []⟩ ∧
      (redirection (Text.of "=(.*)")).apply (Text.of "s?u=a%2Fb") = .ok (some (Text.of "a/b")) := by
  have given : normalizeProvider (Text.of "p") (redirecting (Text.of "=(.*)")) =
      .ok ⟨[redirection (Text.of "=(.*)")], []⟩ := by decide +kernel
  obtain ⟨fields, p, -, -, reads, applies⟩ :=
    apply_unwraps (Text.of "p") _ _ _ 0 given (List.mem_singleton_self _) (by decide)
  have value : Pattern.read (Text.of "=(.*)") = .ok valuePattern := by decide +kernel
  obtain rfl := Except.ok.inj (value.symm.trans reads)
  have found : valuePattern.search (Text.of "s?u=a%2Fb") = some valueMatch := by decide +kernel
  have target : ((valueMatch.group? 1).map Percent.decode).getD [] = Text.of "a/b" := by decide +kernel
  have unwrapped := (applies _ _ found).1 (by decide)
  exact ⟨given, by rw [unwrapped, target]⟩

/-- A pattern without groups: where `a` is found, the URL becomes the template. -/
theorem apply_unwraps_limits :
    ¬∀ (name : Text) (provider : Json) (normalized : Normalized) (r : Rule) (number : Nat),
      normalizeProvider name provider = .ok normalized → r ∈ normalized.rules →
      r.id = ruleId (idStart name) .redirect number → ∀ p url m, Pattern.read r.pattern = .ok p →
      p.search url = some m → r.apply url = .ok (some (((m.group? 1).map Percent.decode).getD [])) := by
  intro claimed
  have given : normalizeProvider (Text.of "p") (redirecting (Text.of "a")) =
      .ok ⟨[redirection (Text.of "a")], []⟩ := by decide +kernel
  have letter : Pattern.read (Text.of "a") = .ok ⟨.char 0x61, {}, 0, []⟩ := by decide +kernel
  have found : Pattern.search ⟨.char 0x61, {}, 0, []⟩ (Text.of "a") = some ⟨Text.of "a", 0, 1, []⟩ := by decide +kernel
  have unwrapped := claimed (Text.of "p") _ _ _ 0 given (List.mem_singleton_self _) (by decide) _ _ _ letter found
  exact absurd unwrapped (by decide +kernel)

end UrlRules.Provider.ClearUrls
