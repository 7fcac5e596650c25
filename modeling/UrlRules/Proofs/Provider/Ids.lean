import Mathlib.Data.List.Nodup
import Mathlib.Data.List.Sigma
import UrlRules.Proofs.Provider.Normalize
import UrlRules.Proofs.Text.Digits

/-!
# The ids of a provider's rules

An id says the `label` of the entry that its rule comes from: the name of a ClearURLs provider, or the domain of a
Linkumori entry, as far as they are made of the characters of ids (`Labelled`). It follows a dash that the
rest of the id does not hold, so entries with different labels have different ids (`Labelled.unique`). In the ids
of one entry the numbers are different (`ids_entry`). So ids are repeated only by entries with one label
(`nodup_ids_iff`).
-/
namespace UrlRules.Provider

open Text

variable {provider : Provider} {data : Json} {normalized : Normalized} {entry : Text × Json} {r : Rule}

/-! ## Sanitized texts -/

/-- What is left of a character in an id. -/
def idForm (c : CodePoint) : Text := (lowerAt [] c []).filter isIdCharacter

/-- The characters around a character only matter to sigma, and no form of it is left in an id. -/
theorem filter_lowerAt (before : Text) (c : CodePoint) (after : Text) :
    (lowerAt before c after).filter isIdCharacter = idForm c := by
  unfold idForm lowerAt
  split
  · split <;> rfl
  · rfl

theorem filter_lowerAfter (before s : Text) :
    (lowerAfter before s).filter isIdCharacter = s.flatMap idForm := by
  induction s generalizing before with
  | nil => rfl
  | cons c s ih => rw [lowerAfter, List.filter_append, filter_lowerAt, ih, List.flatMap_cons]

theorem sanitizeId_append (s t : Text) : sanitizeId (s ++ t) = sanitizeId s ++ sanitizeId t := by
  simp only [sanitizeId, lower, filter_lowerAfter, List.flatMap_append]

/-! ## The end of an id -/

/-- What stands before and after the last separator is told apart. -/
theorem eq_of_append_cons {sep : CodePoint} {s t u v : Text} (absent : sep ∉ u) (absent' : sep ∉ v)
    (same : s ++ sep :: u = t ++ sep :: v) : s = t ∧ u = v := by
  have reversed : u.reverse ++ sep :: s.reverse = v.reverse ++ sep :: t.reverse := by
    simpa using congrArg List.reverse same
  have parts := congrArg (cut sep) reversed
  rw [cut_append (by simpa using absent), cut_append (by simpa using absent')] at parts
  simpa [and_comm] using parts

namespace ClearUrls

theorem Kind.name_injective {kind kind' : Kind} (same : kind.name = kind'.name) : kind = kind' := by
  cases kind <;> cases kind' <;> first | rfl | exact absurd same (by decide)

theorem dash_not_mem_name (kind : Kind) : (0x2D : CodePoint) ∉ kind.name := by
  cases kind <;> decide

theorem dash_not_mem_ofNat (number : Nat) : 0x2D ∉ Text.ofNat number := by
  intro member
  exact absurd (isAsciiDigit_of_mem_ofNat member) (by decide)

/-- An id says its start, the kind of its rule and the number. -/
theorem ruleId_injective {start start' : Text} {kind kind' : Kind} {number number' : Nat}
    (same : ruleId start kind number = ruleId start' kind' number') :
    start = start' ∧ kind = kind' ∧ number = number' := by
  unfold ruleId at same
  have last : (start ++ 0x2D :: kind.name) ++ 0x2D :: Text.ofNat number =
      (start' ++ 0x2D :: kind'.name) ++ 0x2D :: Text.ofNat number' := by simpa using same
  obtain ⟨first, numbers⟩ := eq_of_append_cons (dash_not_mem_ofNat number) (dash_not_mem_ofNat number') last
  obtain ⟨starts, kinds⟩ := eq_of_append_cons (dash_not_mem_name kind) (dash_not_mem_name kind') first
  exact ⟨starts, Kind.name_injective kinds, ofNat_injective numbers⟩

theorem idStart_eq (name : Text) : idStart name = Text.of "clearurls-" ++ sanitizeId name := by
  have own : sanitizeId (Text.of "clearurls-") = Text.of "clearurls-" := by decide
  rw [idStart, sanitizeId_append, own]

end ClearUrls

/-! ## The entries of a document -/

/-- The value that a Linkumori document declares. -/
def Linkumori.declared : Json → Json
  | .object fields => (Json.field? fields declaration).getD .null
  | data => data

/-- The entries of a document, each with the name under which it is normalized. -/
def entriesOf (provider : Provider) (data : Json) : List (Text × Json) :=
  match provider with
  | .clearUrls =>
      match data with
      | .object fields =>
          match Json.field? fields (Text.of "providers") with
          | some (.object providers) => providers
          | _ => []
      | _ => []
  | .linkumori =>
      match Linkumori.declared data with
      | .list entries => entries.map (Provider.linkumori.name, ·)
      | _ => []

/-- The rules that something gives; none if it is given up. -/
def rulesIn : Except Failure Normalized → List Rule
  | .ok normalized => normalized.rules
  | .error _ => []

/-- The ids of the rules of an entry. -/
def idsOf (provider : Provider) (entry : Text × Json) : List Text :=
  (rulesIn (provider.normalizeEntry entry.1 entry.2)).map (·.id)

theorem rules_collect {α : Type} {normalize : α → Except Failure Normalized} {entries : List α}
    (collected : collect normalize entries = .ok normalized) :
    normalized.rules = entries.flatMap fun entry => rulesIn (normalize entry) := by
  induction entries generalizing normalized with
  | nil =>
    obtain rfl := Except.ok.inj collected
    rfl
  | cons entry entries ih =>
    unfold collect at collected
    split at collected
    · cases collected
    next first one =>
      split at collected
      · cases collected
      next others rest =>
        obtain rfl := Except.ok.inj collected
        rw [List.flatMap_cons, one, ← ih rest]
        rfl

/-- The rules of a document are those of its entries. -/
theorem rules_normalizeDocument (given : provider.normalizeDocument data = .ok normalized) :
    normalized.rules =
      (provider.entriesOf data).flatMap fun entry => rulesIn (provider.normalizeEntry entry.1 entry.2) := by
  cases provider with
  | clearUrls =>
    simp only [normalizeDocument, ClearUrls.normalizeDocument] at given
    split at given
    · split at given
      next providers found =>
        simp only [entriesOf, found]
        exact rules_collect given
      next => cases given
    · cases given
  | linkumori =>
    have declared : Linkumori.normalizeDocument data =
        match Linkumori.declared data with
        | .list entries => collect (Linkumori.normalizeEntry Provider.linkumori.name) entries
        | _ => .error Error.notAList.atOnce := by cases data <;> rfl
    rw [normalizeDocument, declared] at given
    simp only [entriesOf]
    split at given
    next entries =>
      rw [List.flatMap_map]
      exact rules_collect given
    next => cases given

theorem ids_normalizeDocument (given : provider.normalizeDocument data = .ok normalized) :
    normalized.rules.map (·.id) = (provider.entriesOf data).flatMap provider.idsOf := by
  rw [rules_normalizeDocument given, List.map_flatMap]
  rfl

/-! ## Labels -/

/-- The end of the id of a rule for a domain. -/
def Linkumori.ending (domain : Text) : Text :=
  if (strip domain).isEmpty then Text.of "global" else sanitizeId (strip domain)

/-- What the ids of an entry tell it from others by. -/
def label : Provider → Text × Json → Text
  | .clearUrls, (name, _) => sanitizeId name
  | .linkumori, (_, .object fields) =>
      match Linkumori.domainOf fields with
      | .ok domain => Linkumori.ending domain
      | .error _ => []
  | .linkumori, _ => []

/-- The ids under a label. -/
inductive Labelled : Provider → Text → Text → Prop
  | clearUrls (label : Text) (kind : ClearUrls.Kind) (number : Nat) :
      Labelled .clearUrls label (ClearUrls.ruleId (Text.of "clearurls-" ++ label) kind number)
  | linkumori (label : Text) : Labelled .linkumori label (Text.of "linkumori-params-" ++ label)

/-- An id has one label. -/
theorem Labelled.unique {one other id : Text} (first : Labelled provider one id)
    (second : Labelled provider other id) : one = other := by
  cases provider with
  | clearUrls =>
    obtain ⟨_, kind, number⟩ := first
    generalize same : ClearUrls.ruleId (Text.of "clearurls-" ++ one) kind number = id at second
    cases second
    exact List.append_cancel_left (ClearUrls.ruleId_injective same).1
  | linkumori =>
    cases first
    generalize same : Text.of "linkumori-params-" ++ one = id at second
    cases second
    exact List.append_cancel_left same

/-! ## The ids of one entry -/

/-- An entry gives one rule under its id, or none. -/
theorem ids_makeRule (provider : Provider) (id : Text) (pattern : Json) (behaviour : Behaviour) :
    ((rulesIn (makeRule provider id pattern behaviour)).map (·.id)).Sublist [id] := by
  have own : (draftOf provider id pattern behaviour).id = .text id := by cases behaviour <;> rfl
  cases pattern with
  | text s =>
    unfold makeRule
    dsimp only
    split
    next r checked =>
      obtain ⟨same, -⟩ := Rule.check_ok checked
      obtain rfl : id = r.id := Json.text.inj (own.symm.trans same)
      exact .refl _
    next => exact List.nil_sublist _
    next => exact List.nil_sublist _
  | _ => exact List.nil_sublist _

theorem flatMap_sublist_map {α β : Type} {f : α → List β} {g : α → β} {items : List α}
    (each : ∀ item ∈ items, (f item).Sublist [g item]) : (items.flatMap f).Sublist (items.map g) := by
  induction items with
  | nil => exact .refl _
  | cons item items ih =>
    obtain ⟨own, others⟩ := List.forall_mem_cons.mp each
    exact own.append (ih others)

theorem rulesIn_collect {α : Type} (normalize : α → Except Failure Normalized) (entries : List α) :
    (rulesIn (collect normalize entries)).Sublist (entries.flatMap fun entry => rulesIn (normalize entry)) := by
  cases collected : collect normalize entries with
  | ok normalized => exact rules_collect collected ▸ .refl _
  | error e => exact List.nil_sublist _

/-- The ids of the rules of a ClearURLs provider are numbered one after the other. -/
theorem ClearUrls.ids_normalizeProvider (name : Text) (provider : Json) :
    ∃ entries : List Entry, ((rulesIn (normalizeProvider name provider)).map (·.id)).Sublist
      (entries.zipIdx.map fun entry => ruleId (idStart name) entry.1.kind entry.2) := by
  unfold normalizeProvider
  dsimp only
  split
  · split
    next fields _ pattern _ =>
      refine ⟨entries fields (.text pattern), ((rulesIn_collect _ _).map _).trans ?_⟩
      rw [List.map_flatMap]
      exact flatMap_sublist_map fun entry _ => ids_makeRule _ _ _ _
    next => exact ⟨[], List.nil_sublist _⟩
  · exact ⟨[], List.nil_sublist _⟩

@[simp] theorem Linkumori.rulesIn_showing (why : String) (value : Json) (shown : Text) :
    rulesIn (showing why value shown) = [] := by
  unfold showing
  split <;> rfl

theorem Linkumori.ids_normalizeEntry (provider : Text) (entry : Json) :
    ((rulesIn (normalizeEntry provider entry)).map (·.id)).Sublist
      [sanitizeId provider ++ Text.of "-params-" ++ Provider.linkumori.label (provider, entry)] := by
  unfold normalizeEntry
  dsimp only
  split
  · split
    · split
      next => simp
      next domain given =>
        split
        · exact List.nil_sublist _
        · simp only [label, given]
          exact ids_makeRule _ _ _ _
    · simp
  · simp

/-- The ids of an entry are distinct, and all of them say its label. -/
theorem ids_entry (member : entry ∈ provider.entriesOf data) :
    (provider.idsOf entry).Nodup ∧
      ∀ id ∈ provider.idsOf entry, Labelled provider (provider.label entry) id := by
  obtain ⟨name, value⟩ := entry
  cases provider with
  | clearUrls =>
    obtain ⟨entries, numbered⟩ := ClearUrls.ids_normalizeProvider name value
    have distinct : (entries.zipIdx.map fun entry =>
        ClearUrls.ruleId (ClearUrls.idStart name) entry.1.kind entry.2).Nodup := by
      refine List.pairwise_map.mpr ((List.pairwise_map.mp (List.nodup_zipIdx_map_snd entries)).imp ?_)
      exact fun apart same => apart (ClearUrls.ruleId_injective same).2.2
    refine ⟨distinct.sublist numbered, fun id inside => ?_⟩
    obtain ⟨entry, -, rfl⟩ := List.mem_map.mp (numbered.subset inside)
    rw [ClearUrls.idStart_eq]
    exact .clearUrls _ _ _
  | linkumori =>
    have one := Linkumori.ids_normalizeEntry name value
    refine ⟨(List.nodup_singleton _).sublist one, fun id inside => ?_⟩
    obtain rfl : name = Provider.linkumori.name := by
      simp only [entriesOf] at member
      split at member
      · obtain ⟨_, -, same⟩ := List.mem_map.mp member
        exact (Prod.mk.inj same).1.symm
      · cases member
    have start : sanitizeId Provider.linkumori.name ++ Text.of "-params-" = Text.of "linkumori-params-" := by decide
    rw [List.mem_singleton.mp (one.subset inside), start]
    exact .linkumori _

/-- The ids of a document are distinct exactly if no two of its entries with one label share an id. -/
theorem nodup_ids_iff (given : provider.normalizeDocument data = .ok normalized) :
    (normalized.rules.map (·.id)).Nodup ↔
      (provider.entriesOf data).Pairwise fun entry other =>
        provider.label entry = provider.label other → (provider.idsOf entry).Disjoint (provider.idsOf other) := by
  rw [ids_normalizeDocument given, List.nodup_flatMap]
  constructor
  · rintro ⟨-, apart⟩
    refine apart.imp fun {entry other} disjoint _ => ?_
    exact disjoint
  · intro apart
    refine ⟨fun entry member => (ids_entry member).1, ?_⟩
    refine apart.imp_of_mem fun {entry other} inside inside' disjoint id first second => ?_
    -- An id of both entries says one label.
    have same := ((ids_entry inside).2 id first).unique ((ids_entry inside').2 id second)
    exact disjoint same first second

/-- A document of ClearURLs providers that each strip one parameter. -/
def providersNamed (names : List Text) : Json :=
  let provider : Json := .object
    [(Text.of "urlPattern", .text (Text.of "a")), (Text.of "rules", .list [.text (Text.of "b")])]
  .object [(Text.of "providers", .object (names.map fun name => (name, provider)))]

/-- Two Linkumori entries for every URL. -/
def globalEntries : Json :=
  let entry (name : Text) : Json := .object [(Text.of "removeParams", .list [.text name])]
  .list [entry (Text.of "a"), entry (Text.of "b")]

/-- The ids of a document need not be distinct: with either provider two entries can have one label. -/
theorem nodup_ids_limits :
    (¬∀ (data : Json) (normalized : Normalized), Provider.clearUrls.normalizeDocument data = .ok normalized →
      (normalized.rules.map (·.id)).Nodup) ∧
    ¬∀ (data : Json) (normalized : Normalized), Provider.linkumori.normalizeDocument data = .ok normalized →
      (normalized.rules.map (·.id)).Nodup := by
  constructor
  · intro claimed
    have distinct := claimed (providersNamed [Text.of "p", Text.of "P"]) _ rfl
    exact absurd distinct (by decide +kernel)
  · intro claimed
    have distinct := claimed globalEntries _ rfl
    exact absurd distinct (by decide +kernel)

end UrlRules.Provider
