import UrlRules.Proofs.Provider.Ids
import UrlRules.Proofs.Rule.Texts

/-!
# The texts of a provider's rules

The rules of a document are written with texts of code points if the document is (`written_of_normalizeDocument`).
Their ids are ASCII, and their patterns and names of parameters are texts of the document, or made of the
lower-case form of one (`bounded_lower`).
-/
namespace UrlRules

open Text

namespace Text

variable {s t : Text} {c : CodePoint}

theorem Bounded.append (first : s.Bounded) (second : t.Bounded) : Bounded (s ++ t) := fun c member =>
  (List.mem_append.mp member).elim (first c) (second c)

theorem Bounded.subset (bounded : t.Bounded) (subset : s ⊆ t) : s.Bounded := fun c member =>
  bounded c (subset member)

theorem simpleLower_le (bounded : c ≤ maxCodePoint) : simpleLower c ≤ maxCodePoint := by
  have runs : ∀ run ∈ lowerRuns, (run.last : Int) + run.offset ≤ maxCodePoint := by decide +kernel
  unfold simpleLower
  split
  next ascii =>
    have small : asciiLower c ≤ c + 32 := by
      unfold asciiLower
      split
      · exact Nat.le_refl _
      · exact Nat.le_add_right _ _
    exact Nat.le_trans small (Nat.le_trans (Nat.add_le_add_right (Nat.le_of_lt ascii) 32) (by decide))
  · unfold applyRuns
    split
    next run found =>
      have within := runs run (List.mem_of_find?_eq_some found)
      have covers := List.find?_some found
      simp only [CaseRun.covers, Bool.and_eq_true, decide_eq_true_eq] at covers
      have shifted : (c : Int) + run.offset ≤ run.last + run.offset :=
        Int.add_le_add_right (Int.ofNat_le.mpr covers.1.2) _
      exact Int.toNat_le.mpr (Int.le_trans shifted within)
    · exact bounded

theorem bounded_lowerAfter (bounded : s.Bounded) (before : Text) : (lowerAfter before s).Bounded := by
  induction s generalizing before with
  | nil => exact bounded
  | cons c s ih =>
    obtain ⟨own, others⟩ := List.forall_mem_cons.mp bounded
    refine .append ?_ (ih others _)
    unfold lowerAt
    split
    · split <;> decide
    split
    · decide
    · intro d member
      rw [List.mem_singleton.mp member]
      exact simpleLower_le own

theorem bounded_lower (bounded : s.Bounded) : (lower s).Bounded := bounded_lowerAfter bounded []

theorem trim_sublist (skip : CodePoint → Bool) (s : Text) : (trim skip s).Sublist s := by
  have right (t : Text) : (trimRight skip t).Sublist t := by
    have kept : (t.reverse.dropWhile skip).Sublist t.reverse := List.dropWhile_sublist skip
    simpa [trimRight] using kept.reverse
  exact (right _).trans (List.dropWhile_sublist skip)

end Text

namespace Provider

variable {provider : Provider} {data : Json} {normalized : Normalized} {entry : Text × Json} {r : Rule}

/-! ## Names -/

theorem bounded_sanitizeId (s : Text) : (sanitizeId s).Bounded := by
  intro c member
  have kept := (List.mem_filter.mp member).2
  simp only [isIdCharacter, isAsciiLower, isAsciiDigit, Bool.or_eq_true, Bool.and_eq_true, decide_eq_true_eq,
    beq_iff_eq] at kept
  rcases kept with ((lower | digit) | rfl) | rfl
  · exact Nat.le_trans lower.2 (by decide)
  · exact Nat.le_trans digit.2 (by decide)
  · decide
  · decide

theorem bounded_ofNat (n : Nat) : (Text.ofNat n).Bounded := by
  intro c member
  have digit := isAsciiDigit_of_mem_ofNat member
  simp only [isAsciiDigit, Bool.and_eq_true, decide_eq_true_eq] at digit
  exact Nat.le_trans digit.2 (by decide)

theorem bounded_domainPattern {domain : Text} (bounded : domain.Bounded) : (domainPattern domain).Bounded := by
  have bare : (bareDomain domain).Bounded := bounded_lower (bounded.subset (trim_sublist _ domain).subset)
  have escaped : (escapePattern (bareDomain domain)).Bounded := by
    intro c member
    obtain ⟨d, inside, same⟩ := List.mem_flatMap.mp member
    split at same
    · rcases List.mem_cons.mp same with rfl | own
      · decide
      · exact List.mem_singleton.mp own ▸ bare d inside
    · exact List.mem_singleton.mp same ▸ bare d inside
  unfold domainPattern
  dsimp only
  split
  · decide
  · refine .append (.append ?_ escaped) ?_ <;> decide

theorem mem_of_mem_firstOccurrences {names : List Text} {name : Text} (member : name ∈ firstOccurrences names) :
    name ∈ names := by
  have from_start : ∀ (kept rest : List Text), name ∈ rest.foldl (fun kept name =>
      if kept.contains name then kept else kept ++ [name]) kept → name ∈ kept ∨ name ∈ rest := by
    intro kept rest
    induction rest generalizing kept with
    | nil => exact .inl
    | cons first rest ih =>
      intro inside
      rcases ih _ inside with before | later
      · dsimp only at before
        split at before <;> grind
      · exact .inr (List.mem_cons_of_mem _ later)
  exact (from_start [] names member).resolve_left List.not_mem_nil

/-- Names of parameters are texts of the value they are read from. -/
theorem parameterNames_subset (value : Json) : parameterNames value ⊆ value.texts := by
  intro name member
  unfold parameterNames at member
  split at member
  · have kept := (List.mem_filter.mp (mem_of_mem_firstOccurrences member)).1
    obtain ⟨item, inside, read⟩ := List.mem_filterMap.mp kept
    exact Json.mem_textsOfItems.mpr ⟨item, inside, by simp [Rule.texts_asText? read]⟩
  · cases member

/-! ## One rule -/

/-- The texts of what a rule does. -/
def Behaviour.texts : Behaviour → List Text
  | .expand template => [template]
  | .strip names => names

/-- The texts of a rule that is made are those it is made of. -/
theorem texts_makeRule {id : Text} {pattern : Json} {behaviour : Behaviour}
    (member : r ∈ rulesIn (makeRule provider id pattern behaviour)) :
    r.texts ⊆ id :: pattern.texts ++ behaviour.texts := by
  cases pattern with
  | text s =>
    unfold makeRule at member
    dsimp only at member
    split at member
    next q checked =>
      obtain rfl : r = q := by simpa [rulesIn, Normalized.rule] using member
      obtain ⟨sameId, samePattern, substitution, names, -, -, examples⟩ := Rule.check_ok checked
      rw [examples_draftOf] at examples
      cases behaviour with
      | expand template =>
        obtain rfl : id = r.id := Json.text.inj sameId
        obtain rfl : s = r.pattern := Json.text.inj samePattern
        have none : r.removeParams = [] := List.eq_nil_iff_forall_not_mem.mpr fun name inside =>
          List.not_mem_nil (Rule.mem_of_checkNames names name inside)
        have template : r.substitution = some template := substitution
        simp [Rule.texts, template, none, examples, Json.texts, Behaviour.texts]
      | strip own =>
        obtain rfl : id = r.id := Json.text.inj sameId
        obtain rfl : s = r.pattern := Json.text.inj samePattern
        have none : r.substitution = none := substitution
        have whole : r.texts = [r.id, r.pattern] ++ r.removeParams := by simp [Rule.texts, none, examples]
        rw [whole]
        intro text member
        rcases List.mem_append.mp member with first | name
        · exact List.mem_append_left _ first
        · have among := Rule.mem_of_checkNames names text name
          exact List.mem_append_right _ (by simpa [Behaviour.texts] using among)
    next => cases member
    next => cases member
  | _ => cases member

/-! ## The rules of an entry -/

namespace ClearUrls

variable {fields : List (Text × Json)} {pattern : Json} {made : ClearUrls.Entry}

theorem bounded_ruleId (name : Text) (kind : Kind) (number : Nat) : (ruleId (idStart name) kind number).Bounded := by
  have kindName : kind.name.Bounded := by cases kind <;> decide
  have dash : Bounded [0x2D] := by decide
  have parts : ruleId (idStart name) kind number =
      idStart name ++ ([0x2D] ++ (kind.name ++ ([0x2D] ++ Text.ofNat number))) := by simp [ruleId]
  rw [parts]
  exact (bounded_sanitizeId _).append (dash.append (kindName.append (dash.append (bounded_ofNat number))))

theorem texts_itemsAt {name : String} {item : Json} (member : item ∈ itemsAt fields name) :
    item.texts ⊆ Json.textsOfFields fields := by
  unfold itemsAt at member
  cases found : Json.field? fields (Text.of name) with
  | none => simp [found] at member
  | some value =>
    cases value with
    | list items =>
      have inside : item ∈ items := by simpa [found, Json.asList?] using member
      exact fun s own => Json.texts_field? found (Json.mem_textsOfItems.mpr ⟨item, inside, own⟩)
    | _ => simp [found, Json.asList?] at member

theorem texts_stripEntry {kind : Kind} {name : String} (member : made ∈ stripEntry kind fields name pattern) :
    made.pattern = pattern ∧ made.behaviour.texts ⊆ Json.textsOfFields fields := by
  unfold stripEntry at member
  split at member
  · cases member
  next =>
    obtain rfl := List.mem_singleton.mp member
    refine ⟨rfl, fun s inside => ?_⟩
    have own : s ∈ parameterNames ((Json.field? fields (Text.of name)).getD .null) := inside
    exact Json.texts_getD fields _ (parameterNames_subset _ own)

/-- The texts of the rules of a provider are its own, apart from the two templates. -/
theorem texts_entries (member : made ∈ entries fields pattern) (own : pattern.texts ⊆ Json.textsOfFields fields) :
    made.pattern.texts ++ made.behaviour.texts ⊆ [Text.of "$1", []] ++ Json.textsOfFields fields := by
  have expanded {name : String} {item : Json} {template : Text} (inside : item ∈ itemsAt fields name)
      (known : template ∈ [Text.of "$1", []]) :
      item.texts ++ [template] ⊆ [Text.of "$1", []] ++ Json.textsOfFields fields := by
    intro s given
    rcases List.mem_append.mp given with first | last
    · exact List.mem_append_right _ (texts_itemsAt inside first)
    · exact List.mem_append_left _ (List.mem_singleton.mp last ▸ known)
  unfold entries at member
  simp only [List.mem_append, List.mem_map] at member
  rcases member with ((⟨item, inside, rfl⟩ | ⟨item, inside, rfl⟩) | params) | referral
  · exact expanded inside (by simp)
  · exact expanded inside (by simp)
  all_goals
    obtain ⟨same, names⟩ := texts_stripEntry ‹_›
    rw [same]
    exact List.Subset.trans (List.append_subset.mpr ⟨own, names⟩) (List.subset_append_right _ _)

theorem bounded_normalizeProvider {name : Text} {value : Json} (bounded : ∀ s ∈ value.texts, s.Bounded)
    (member : r ∈ rulesIn (normalizeProvider name value)) : ∀ s ∈ r.texts, s.Bounded := by
  unfold normalizeProvider at member
  dsimp only at member
  split at member
  next fields =>
    split at member
    next pattern found =>
      obtain ⟨⟨made, number⟩, inside, own⟩ := List.mem_flatMap.mp ((rulesIn_collect _ _).subset member)
      have among := texts_entries (List.fst_mem_of_mem_zipIdx inside) (Json.texts_field? found)
      intro s text
      rcases List.mem_cons.mp (texts_makeRule own text) with rfl | other
      · exact bounded_ruleId name made.kind number
      · rcases List.mem_append.mp (among other) with template | given
        · have templates : ∀ s ∈ [Text.of "$1", []], s.Bounded := by decide
          exact templates s template
        · exact bounded s given
    next => cases member
  next => cases member

end ClearUrls

theorem Linkumori.bounded_ruleId (provider domain : Text) : (ruleId provider domain).Bounded := by
  have middle : (Text.of "-params-").Bounded := by decide
  unfold ruleId
  refine ((bounded_sanitizeId _).append middle).append ?_
  split
  · decide
  · exact bounded_sanitizeId _

theorem Linkumori.bounded_normalizeEntry {name : Text} {value : Json} (bounded : ∀ s ∈ value.texts, s.Bounded)
    (member : r ∈ rulesIn (normalizeEntry name value)) : ∀ s ∈ r.texts, s.Bounded := by
  unfold normalizeEntry at member
  dsimp only at member
  split at member
  next fields =>
    split at member
    next params found =>
      split at member
      next => simp at member
      next domain given =>
        split at member
        · cases member
        next names _ _ =>
          have own : domain.Bounded := by
            unfold domainOf at given
            have among := Json.texts_getD fields (Text.of "domain")
            split at given
            next => exact Except.ok.inj given ▸ List.forall_mem_nil _
            next s value =>
              obtain rfl := Except.ok.inj given
              exact bounded s (among (by simp [value, Json.texts]))
            next => cases given
          intro s text
          rcases List.mem_cons.mp (texts_makeRule member text) with rfl | other
          · exact bounded_ruleId name domain
          · rcases List.mem_append.mp other with pattern | param
            · exact List.mem_singleton.mp pattern ▸ bounded_domainPattern own
            · have among : s ∈ parameterNames (.list params) := param
              exact bounded s (Json.texts_field? found (parameterNames_subset _ among))
    next => simp at member
  next => simp at member

/-! ## The rules of a document -/

/-- The texts of an entry are among those of its document. -/
theorem texts_entriesOf (member : entry ∈ provider.entriesOf data) : entry.2.texts ⊆ data.texts := by
  cases provider with
  | clearUrls =>
    simp only [entriesOf] at member
    split at member
    · split at member
      next found =>
        exact fun s own => Json.texts_field? found (Json.mem_textsOfFields.mpr ⟨entry, member, .inr own⟩)
      next => cases member
    · cases member
  | linkumori =>
    simp only [entriesOf] at member
    have declared : (Linkumori.declared data).texts ⊆ data.texts := by
      cases data with
      | object fields => exact Json.texts_getD fields _
      | _ => exact List.Subset.refl _
    split at member
    next entries found =>
      obtain ⟨value, inside, rfl⟩ := List.mem_map.mp member
      rw [found] at declared
      exact fun s own => declared (Json.mem_textsOfItems.mpr ⟨value, inside, own⟩)
    next => cases member

/-- The rules of a document whose texts are of code points are written. -/
theorem written_of_normalizeDocument (bounded : ∀ s ∈ data.texts, s.Bounded)
    (given : provider.normalizeDocument data = .ok normalized) : ∀ r ∈ normalized.rules, r.Written := by
  intro r member
  have typed : r.WellTyped := by
    cases provider with
    | clearUrls => exact ClearUrls.wellTyped_of_normalizeDocument given member
    | linkumori => exact Linkumori.wellTyped_of_normalizeDocument given member
  rw [rules_normalizeDocument given] at member
  obtain ⟨entry, inside, own⟩ := List.mem_flatMap.mp member
  have within : ∀ s ∈ entry.2.texts, s.Bounded := fun s text => bounded s (texts_entriesOf inside text)
  cases provider with
  | clearUrls => exact ⟨typed, ClearUrls.bounded_normalizeProvider within own⟩
  | linkumori => exact ⟨typed, Linkumori.bounded_normalizeEntry within own⟩

end Provider
end UrlRules
