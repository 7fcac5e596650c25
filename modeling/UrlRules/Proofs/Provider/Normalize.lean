import UrlRules.Proofs.Rule.Wire
import UrlRules.Provider.Normalize

/-!
# Rules of providers are right

Every rule that the text of a provider gives is well typed (`wellTyped_of_normalizeText`): each one has been
checked, and none has examples. What holds of the rules of each entry holds of those of a list of entries
(`mem_of_collect`).
-/
namespace UrlRules.Provider

open Text

variable {provider : Provider} {normalized : Normalized} {r : Rule}

/-- An entry with a warning gives no rule. -/
theorem not_mem_of_warning {message : Text}
    (given : (.ok (.warning message) : Except Failure Normalized) = .ok normalized) :
    r ∉ normalized.rules := by
  obtain rfl := Except.ok.inj given
  exact List.not_mem_nil

theorem examples_draftOf (provider : Provider) (id : Text) (pattern : Json) (behaviour : Behaviour) :
    (draftOf provider id pattern behaviour).examples = [] := by
  cases behaviour <;> rfl

theorem wellTyped_of_makeRule {id : Text} {pattern : Json} {behaviour : Behaviour}
    (made : makeRule provider id pattern behaviour = .ok normalized) (member : r ∈ normalized.rules) :
    r.WellTyped := by
  unfold makeRule at made
  split at made
  · split at made
    next q checked =>
      obtain rfl := Except.ok.inj made
      obtain rfl : r = q := by simpa [Normalized.rule] using member
      obtain ⟨-, -, -, -, -, -, examples⟩ := Rule.check_ok checked
      rw [examples_draftOf] at examples
      exact ⟨Rule.valid_of_check checked, by simp [examples]⟩
    next => cases made
    next => exact absurd member (not_mem_of_warning made)
  · exact absurd member (not_mem_of_warning made)

/-- Every rule of a list of entries is one of some entry. -/
theorem mem_of_collect {α : Type} {normalize : α → Except Failure Normalized} {entries : List α}
    (collected : collect normalize entries = .ok normalized) (member : r ∈ normalized.rules) :
    ∃ entry ∈ entries, ∃ own, normalize entry = .ok own ∧ r ∈ own.rules := by
  induction entries generalizing normalized with
  | nil =>
    obtain rfl := Except.ok.inj collected
    cases member
  | cons entry entries ih =>
    unfold collect at collected
    split at collected
    · cases collected
    next first one =>
      split at collected
      · cases collected
      next others rest =>
        obtain rfl := Except.ok.inj collected
        rcases List.mem_append.mp member with own | later
        · exact ⟨entry, by simp, first, one, own⟩
        · obtain ⟨found, inside, found_own⟩ := ih rest later
          exact ⟨found, by simp [inside], found_own⟩

theorem ClearUrls.wellTyped_of_normalizeProvider {name : Text} {data : Json}
    (given : ClearUrls.normalizeProvider name data = .ok normalized) (member : r ∈ normalized.rules) :
    r.WellTyped := by
  unfold ClearUrls.normalizeProvider at given
  dsimp only at given
  split at given
  · split at given
    · obtain ⟨entry, -, own, made, inside⟩ := mem_of_collect given member
      exact wellTyped_of_makeRule made inside
    · exact absurd member (not_mem_of_warning given)
  · exact absurd member (not_mem_of_warning given)

theorem Linkumori.not_mem_of_showing {why : String} {value : Json} {shown : Text}
    (given : Linkumori.showing why value shown = .ok normalized) : r ∉ normalized.rules := by
  unfold Linkumori.showing at given
  split at given
  · exact not_mem_of_warning given
  · cases given

theorem Linkumori.wellTyped_of_normalizeEntry {name : Text} {entry : Json}
    (given : Linkumori.normalizeEntry name entry = .ok normalized) (member : r ∈ normalized.rules) :
    r.WellTyped := by
  unfold Linkumori.normalizeEntry at given
  dsimp only at given
  split at given
  · split at given
    · split at given
      · exact absurd member (not_mem_of_showing given)
      · split at given
        · obtain rfl := Except.ok.inj given
          cases member
        · exact wellTyped_of_makeRule given member
    · exact absurd member (not_mem_of_showing given)
  · exact absurd member (not_mem_of_showing given)

theorem ClearUrls.wellTyped_of_normalizeDocument {data : Json}
    (given : ClearUrls.normalizeDocument data = .ok normalized) (member : r ∈ normalized.rules) :
    r.WellTyped := by
  unfold ClearUrls.normalizeDocument at given
  split at given
  · split at given
    · obtain ⟨⟨name, entry⟩, -, own, made, inside⟩ := mem_of_collect given member
      exact ClearUrls.wellTyped_of_normalizeProvider made inside
    · cases given
  · cases given

theorem Linkumori.wellTyped_of_normalizeDocument {data : Json}
    (given : Linkumori.normalizeDocument data = .ok normalized) (member : r ∈ normalized.rules) :
    r.WellTyped := by
  unfold Linkumori.normalizeDocument at given
  dsimp only at given
  split at given
  · obtain ⟨entry, -, own, made, inside⟩ := mem_of_collect given member
    exact Linkumori.wellTyped_of_normalizeEntry made inside
  · cases given

/-- Every rule in the text of a provider is well typed. -/
theorem wellTyped_of_normalizeText {text : Text} (given : provider.normalizeText text = .ok normalized)
    (member : r ∈ normalized.rules) : r.WellTyped := by
  unfold normalizeText at given
  split at given
  · cases provider with
    | clearUrls => exact ClearUrls.wellTyped_of_normalizeDocument given member
    | linkumori => exact Linkumori.wellTyped_of_normalizeDocument given member
  · cases given

end UrlRules.Provider
