import UrlRules.Proofs.Provider.Numbering

/-!
# Where an id comes from

Names of providers may hold dashes, words for kinds and digits, as those of `a` and `a-raw-0` do. An id is still told
apart from its end: the digits after the last dash, the kind before them, and what is left of the name
(`Numbered.id_eq_iff`). A provider gives a number once, so two rules of a document share their id only if they come
from different providers (`ids_shared_iff`).
-/
namespace UrlRules.Provider.ClearUrls

open Text

variable {data : Json} {normalized : Normalized} {name : Text} {provider : Json}

/-- The rules of a provider, if it is not malformed. -/
def numberedOf (name : Text) : Json → List Numbered
  | .object fields =>
    match Json.field? fields (Text.of "urlPattern") with
    | some (.text url) => numbered name fields url
    | _ => []
  | _ => []

/-- The rules of a document, each with what its id says. -/
def numberedIn (data : Json) : List Numbered :=
  (Provider.clearUrls.entriesOf data).flatMap fun entry => numberedOf entry.1 entry.2

/-! ## Ids -/

/-- What an id is made of: what the name leaves in ids, the kind and the number. -/
theorem Numbered.id_eq_iff (m n : Numbered) :
    m.id = n.id ↔ sanitizeId m.provider = sanitizeId n.provider ∧ m.kind = n.kind ∧ m.number = n.number := by
  constructor
  · intro same
    -- An id is read from its end, since no number and no kind holds a dash, while names may.
    obtain ⟨starts, kinds, numbers⟩ := ruleId_injective same
    rw [idStart_eq, idStart_eq] at starts
    exact ⟨List.append_cancel_left starts, kinds, numbers⟩
  · rintro ⟨names, kinds, numbers⟩
    rw [id, id, idStart_eq, idStart_eq, names, kinds, numbers]

theorem isIdCharacter_of_mem_ruleId (name : Text) (kind : Kind) (number : Nat) :
    ∀ c ∈ ruleId (idStart name) kind number, isIdCharacter c = true := by
  have dash : isIdCharacter 0x2D = true := by decide
  have kindName : ∀ c ∈ kind.name, isIdCharacter c = true := by cases kind <;> decide
  intro c member
  simp only [ruleId, idStart, sanitizeId, List.append_assoc, List.cons_append, List.mem_append, List.mem_cons] at member
  rcases member with start | rfl | own | rfl | digit
  · exact (List.mem_filter.mp start).2
  · exact dash
  · exact kindName c own
  · exact dash
  · simp [isIdCharacter, isAsciiDigit_of_mem_ofNat digit]

/-! ## The rules of a document -/

theorem numberedOf_of_malformed (malformed : Malformed provider) (name : Text) : numberedOf name provider = [] := by
  unfold numberedOf
  split
  · split
    next url found => exact absurd found (malformed _ url rfl)
    next => rfl
  · rfl

/-- A provider that is normalized gives the rules that it has by its fields; a malformed one gives none. -/
theorem rules_eq_numberedOf (given : normalizeProvider name provider = .ok normalized) :
    normalized.rules = (numberedOf name provider).map Numbered.rule := by
  by_cases malformed : Malformed provider
  · have nothing := rules?_of_malformed malformed name
    rw [given] at nothing
    rw [numberedOf_of_malformed malformed, List.map_nil]
    exact Option.some.inj nothing
  · obtain ⟨fields, url, rfl, found⟩ : ∃ fields url, provider = .object fields ∧
        Json.field? fields (Text.of "urlPattern") = some (.text url) := by
      simpa [Malformed] using malformed
    rw [rules_normalizeProvider found given, numberedOf, found]

/-- In a document that is normalized, so is every provider. -/
theorem exists_normalizeProvider (given : normalizeDocument data = .ok normalized)
    (member : (name, provider) ∈ Provider.clearUrls.entriesOf data) :
    ∃ own, normalizeProvider name provider = .ok own := by
  unfold normalizeDocument at given
  split at given
  · split at given
    next providers found =>
      rw [entriesOf, found] at member
      exact collect_ok_iff.mp ⟨normalized, given⟩ (name, provider) member
    next => cases given
  · cases given

theorem rules_eq_numberedIn (given : normalizeDocument data = .ok normalized) :
    normalized.rules = (numberedIn data).map Numbered.rule := by
  rw [@rules_normalizeDocument .clearUrls data normalized given, numberedIn, List.map_flatMap]
  refine List.flatMap_congr fun ⟨name, provider⟩ member => ?_
  obtain ⟨own, made⟩ := exists_normalizeProvider given member
  rw [← rules_eq_numberedOf made, normalizeEntry, made]
  rfl

/-! ## Numbers -/

theorem exists_fields_of_mem {n : Numbered} (member : n ∈ numberedOf name provider) :
    ∃ fields url, provider = .object fields ∧ Json.field? fields (Text.of "urlPattern") = some (.text url) ∧
      n ∈ numbered name fields url := by
  unfold numberedOf at member
  split at member
  next fields =>
    split at member
    next url found => exact ⟨fields, url, rfl, found, member⟩
    next => cases member
  · cases member

theorem provider_of_mem_numberedOf {n : Numbered} (member : n ∈ numberedOf name provider) : n.provider = name := by
  obtain ⟨fields, url, -, -, inside⟩ := exists_fields_of_mem member
  obtain ⟨entry, -, own, -⟩ := exists_entry_of_mem inside
  exact own

/-- A provider gives a number once. -/
theorem pairwise_number (name : Text) (provider : Json) :
    (numberedOf name provider).Pairwise fun m n => m.number ≠ n.number := by
  unfold numberedOf
  split
  · split
    next fields url found =>
      rw [numbered_eq]
      refine List.Pairwise.filterMap _ ?_ (List.pairwise_map.mp (List.nodup_zipIdx_map_snd _))
      rintro ⟨entry, number⟩ ⟨entry', number'⟩ apart m made n made'
      rw [keeps_numbered? name entry number m made, keeps_numbered? name entry' number' n made']
      exact apart
    next => exact .nil
  · exact .nil

theorem pairwise_numberedIn (keys : ((Provider.clearUrls.entriesOf data).map (·.1)).Nodup) :
    (numberedIn data).Pairwise fun m n => m.provider = n.provider → m.number ≠ n.number := by
  refine List.pairwise_flatMap.mpr ⟨fun entry _ => ?_, ?_⟩
  · exact List.Pairwise.imp (fun {m n} (apart : m.number ≠ n.number) _ => apart) (pairwise_number entry.1 entry.2)
  · refine (List.pairwise_map.mp keys).imp fun {entry other} apart m first n second same => absurd ?_ apart
    rw [← provider_of_mem_numberedOf first, ← provider_of_mem_numberedOf second, same]

/-- In a document that names each provider once, as any object that is read does, two rules share their id exactly if
they come from different providers whose names leave the same in ids, and are of one kind under one number. The ids of
one provider are distinct, and all are made of characters of ids. -/
theorem ids_shared_iff (data : Json) (normalized : Normalized) (given : normalizeDocument data = .ok normalized)
    (keys : ((Provider.clearUrls.entriesOf data).map (·.1)).Nodup) :
    normalized.rules = (numberedIn data).map Numbered.rule ∧
    (∀ n ∈ numberedIn data, n.provider ∈ (Provider.clearUrls.entriesOf data).map (·.1)) ∧
    (numberedIn data).Pairwise (fun m n => m.rule.id = n.rule.id ↔
      m.provider ≠ n.provider ∧ sanitizeId m.provider = sanitizeId n.provider ∧ m.kind = n.kind ∧
        m.number = n.number) ∧
    (∀ entry ∈ Provider.clearUrls.entriesOf data, (Provider.clearUrls.idsOf entry).Nodup) ∧
    ∀ r ∈ normalized.rules, r.id ≠ [] ∧ ∀ c ∈ r.id, isIdCharacter c = true := by
  have rules := rules_eq_numberedIn given
  refine ⟨rules, fun n member => ?_, ?_, fun entry member => (ids_entry member).1, ?_⟩
  · obtain ⟨entry, inside, own⟩ := List.mem_flatMap.mp member
    exact List.mem_map.mpr ⟨entry, inside, (provider_of_mem_numberedOf own).symm⟩
  · refine (pairwise_numberedIn keys).imp fun {m n} apart => ?_
    rw [m.id_rule, n.id_rule, m.id_eq_iff n]
    exact ⟨fun same => ⟨fun one => apart one same.2.2, same⟩, fun same => same.2⟩
  · rw [rules]
    intro r member
    obtain ⟨n, -, rfl⟩ := List.mem_map.mp member
    rw [n.id_rule]
    exact ⟨ruleId_ne_nil _ _ _, isIdCharacter_of_mem_ruleId _ _ _⟩

/-- The names `a` and `A` leave the same in ids, and the third one looks like an id of theirs. -/
theorem ids_shared_iff_nested :
    ∃ normalized, normalizeDocument (providersNamed (["a", "A", "a-params-0"].map Text.of)) = .ok normalized ∧
      normalized.rules.map (·.id) =
        ["clearurls-a-params-0", "clearurls-a-params-0", "clearurls-a-params-0-params-0"].map Text.of := by
  obtain ⟨normalized, given⟩ : ∃ normalized,
      normalizeDocument (providersNamed (["a", "A", "a-params-0"].map Text.of)) = .ok normalized := ⟨_, rfl⟩
  obtain ⟨rules, -⟩ := ids_shared_iff _ normalized given (by decide)
  refine ⟨normalized, given, ?_⟩
  rw [rules]
  decide +kernel

end UrlRules.Provider.ClearUrls
