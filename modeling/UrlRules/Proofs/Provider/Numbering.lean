import UrlRules.Proofs.Json.Fields
import UrlRules.Proofs.Provider.Making
import UrlRules.Proofs.Provider.Texts

/-!
# The numbers of a provider's rules

In a ClearURLs provider every redirection and every raw rule takes a number, whether it is a pattern or not, and the
parameters to strip take theirs after all of these, as far as there are any. `numbered` says so place by place, without
a counter. Normalizing gives just these rules (`rules_normalizeProvider`), unless a value that has to be a pattern is
one that a document is given up for. So an entry that is replaced by one that is no pattern loses its own rule only, and
a provider that is malformed might as well not be there (`normalizeProvider_numbered`).
-/
namespace UrlRules.Provider

open Text

/-! ## The rules, place by place -/

namespace ClearUrls

/-- A rule of a provider, by what its id says and what it does. -/
structure Numbered where
  provider : Text
  kind : Kind
  number : Nat
  pattern : Text
  behaviour : Behaviour
  deriving DecidableEq, Repr

def Numbered.id (n : Numbered) : Text := ruleId (idStart n.provider) n.kind n.number

def Numbered.rule (n : Numbered) : Rule := ruleWith .clearUrls n.id n.pattern n.behaviour

/-- The two lists of patterns in a provider. -/
inductive Listing where
  | redirections
  | rawRules
  deriving DecidableEq, Repr

namespace Listing

def field : Listing → String
  | .redirections => "redirections"
  | .rawRules => "rawRules"

def kind : Listing → Kind
  | .redirections => .redirect
  | .rawRules => .raw

/-- A redirection is replaced by its first group, and a raw rule by nothing. -/
def template : Listing → Text
  | .redirections => Text.of "$1"
  | .rawRules => []

def items (listing : Listing) (fields : List (Text × Json)) : List Json := itemsAt fields listing.field

/-- The rule yet to be made of an item. -/
def entry (listing : Listing) (item : Json) : Entry := ⟨listing.kind, item, .expand listing.template⟩

/-- The number of the first item. -/
def first (fields : List (Text × Json)) : Listing → Nat
  | .redirections => 0
  | .rawRules => (redirections.items fields).length

/-- The rules of those items that are patterns. Every item takes a number. -/
def numbered (listing : Listing) (name : Text) (fields : List (Text × Json)) : List Numbered :=
  ((listing.items fields).zipIdx (listing.first fields)).filterMap fun (item, number) =>
    (patternOf? item).map fun pattern => ⟨name, listing.kind, number, pattern, .expand listing.template⟩

/-- The fields of the provider with another item at a place. -/
def replace (listing : Listing) (fields : List (Text × Json)) (place : Nat) (item : Json) : List (Text × Json) :=
  Json.setField fields (Text.of listing.field) (.list ((listing.items fields).set place item))

end Listing

/-- The parameters to strip, of both kinds, as far as there are any. -/
def parameters (fields : List (Text × Json)) : List (Kind × List Text) :=
  [(.params, "rules"), (.referral, "referralMarketing")].filterMap fun (kind, field) =>
    match parameterNames ((Json.field? fields (Text.of field)).getD .null) with
    | [] => none
    | names => some (kind, names)

/-- The rules that strip parameters, if the pattern of the provider is one. They take the numbers after those of all
items. -/
def stripping (name : Text) (fields : List (Text × Json)) (url : Text) : List Numbered :=
  let first := (Listing.redirections.items fields).length + (Listing.rawRules.items fields).length
  ((parameters fields).zipIdx first).filterMap fun ((kind, names), number) =>
    (patternOf? (.text url)).map fun pattern => ⟨name, kind, number, pattern, .strip names⟩

/-- The rules of a provider with a pattern for its URLs. -/
def numbered (name : Text) (fields : List (Text × Json)) (url : Text) : List Numbered :=
  Listing.redirections.numbered name fields ++ Listing.rawRules.numbered name fields ++ stripping name fields url

/-- The values that have to be patterns: all items, and the provider's own if there are parameters to strip. -/
def patternsIn (fields : List (Text × Json)) (url : Text) : List Json :=
  Listing.redirections.items fields ++ Listing.rawRules.items fields ++ (parameters fields).map fun _ => .text url

/-- A provider that is no object, or has no text as the pattern of its URLs. -/
def Malformed (provider : Json) : Prop :=
  ∀ fields url, provider = .object fields → Json.field? fields (Text.of "urlPattern") ≠ some (.text url)

variable {name : Text} {fields : List (Text × Json)} {url : Text} {value : Json} {listing : Listing} {place : Nat}
  {normalized : Normalized} {entry : Entry}

/-! ## Entries -/

@[simp] theorem Numbered.id_rule (n : Numbered) : n.rule.id = n.id := by
  obtain ⟨provider, kind, number, pattern, behaviour⟩ := n
  cases behaviour <;> rfl

/-- The rule of an entry under a number, if it has one. -/
def Entry.numbered? (name : Text) : Entry × Nat → Option Numbered
  | (entry, number) =>
    (patternOf? entry.pattern).map fun pattern => ⟨name, entry.kind, number, pattern, entry.behaviour⟩

/-- The entries are those of the two lists and those of the parameters that are there. -/
theorem entries_eq (fields : List (Text × Json)) (pattern : Json) :
    entries fields pattern =
      (Listing.redirections.items fields).map Listing.redirections.entry ++
        (Listing.rawRules.items fields).map Listing.rawRules.entry ++
        (parameters fields).map fun (kind, names) => ⟨kind, pattern, .strip names⟩ := by
  have redirect : Listing.redirections.entry = (⟨.redirect, ·, .expand (Text.of "$1")⟩) := rfl
  have raw : Listing.rawRules.entry = (⟨.raw, ·, .expand []⟩) := rfl
  unfold entries parameters stripEntry
  simp only [List.filterMap_cons, List.filterMap_nil, Listing.items, Listing.field, redirect, raw]
  cases parameterNames ((Json.field? fields (Text.of "rules")).getD .null) <;>
    cases parameterNames ((Json.field? fields (Text.of "referralMarketing")).getD .null) <;> simp

theorem patterns_entries (fields : List (Text × Json)) (url : Text) :
    (entries fields (.text url)).map (·.pattern) = patternsIn fields url := by
  rw [entries_eq]
  simp [patternsIn, Function.comp_def, Listing.entry]

/-- The rules of a provider are those of its entries, numbered one after the other. -/
theorem numbered_eq (name : Text) (fields : List (Text × Json)) (url : Text) :
    numbered name fields url = (entries fields (.text url)).zipIdx.filterMap (Entry.numbered? name) := by
  rw [entries_eq]
  simp only [numbered, Listing.numbered, stripping, List.zipIdx_append, List.zipIdx_map, List.filterMap_append,
    List.filterMap_map, List.length_append, List.length_map, Listing.first, Nat.zero_add]
  rfl

/-- Names of parameters are not empty. -/
theorem ne_nil_of_mem_parameterNames {value : Json} {name : Text} (member : name ∈ parameterNames value) :
    name ≠ [] := by
  unfold parameterNames at member
  split at member
  · have kept := (List.mem_filter.mp (mem_of_mem_firstOccurrences member)).2
    rintro rfl
    simp [isParameterName] at kept
  · cases member

theorem proper_entries (member : entry ∈ entries fields value) : entry.behaviour.Proper := by
  rw [entries_eq] at member
  simp only [List.mem_append, List.mem_map] at member
  rcases member with (⟨item, -, rfl⟩ | ⟨item, -, rfl⟩) | ⟨⟨kind, names⟩, inside, rfl⟩
  · trivial
  · trivial
  · obtain ⟨⟨kind', field⟩, -, given⟩ := List.mem_filterMap.mp inside
    dsimp only at given
    split at given
    · cases given
    next some =>
      cases given
      exact ⟨some, fun name => ne_nil_of_mem_parameterNames⟩

/-! ## Normalizing -/

theorem ruleId_ne_nil (start : Text) (kind : Kind) (number : Nat) : ruleId start kind number ≠ [] := by
  simp [ruleId]

theorem normalizeProvider_eq (found : Json.field? fields (Text.of "urlPattern") = some (.text url)) :
    normalizeProvider name (.object fields) =
      collect (fun (entry, number) =>
        makeRule .clearUrls (ruleId (idStart name) entry.kind number) entry.pattern entry.behaviour)
        (entries fields (.text url)).zipIdx := by
  simp only [normalizeProvider, found]

/-- A provider that is normalized gives its numbered rules. -/
theorem rules_normalizeProvider (found : Json.field? fields (Text.of "urlPattern") = some (.text url))
    (given : normalizeProvider name (.object fields) = .ok normalized) :
    normalized.rules = (numbered name fields url).map Numbered.rule := by
  rw [normalizeProvider_eq found] at given
  rw [rules_collect given, numbered_eq, List.map_filterMap, List.filterMap_eq_flatMap_toList]
  refine List.flatMap_congr fun ⟨entry, number⟩ inside => ?_
  have proper := proper_entries (List.fst_mem_of_mem_zipIdx inside)
  rw [rulesIn_makeRule (ruleId_ne_nil _ _ _) proper, Entry.numbered?, Option.map_map]
  rfl

/-- A provider is normalized exactly if no value that has to be a pattern makes the document be given up. -/
theorem normalizeProvider_ok_iff (found : Json.field? fields (Text.of "urlPattern") = some (.text url)) :
    (∃ normalized, normalizeProvider name (.object fields) = .ok normalized) ↔
      ∀ value ∈ patternsIn fields url, ¬GivesUp value := by
  have placed : patternsIn fields url = (entries fields (.text url)).zipIdx.map (·.1.pattern) := by
    have items := List.zipIdx_map_fst 0 (entries fields (.text url))
    conv_lhs => rw [← patterns_entries, ← items, List.map_map]
    rfl
  rw [normalizeProvider_eq found, collect_ok_iff, placed, List.forall_mem_map]
  refine forall₂_congr fun ⟨entry, number⟩ inside => ?_
  exact makeRule_ok_iff (ruleId_ne_nil _ _ _) (proper_entries (List.fst_mem_of_mem_zipIdx inside))

/-! ## Another item in a list -/

section

variable {α : Type} {make : α × Nat → Option Numbered} {items : List α} {first : Nat}

/-- What is made under a number has this number. -/
def Keeps (make : α × Nat → Option Numbered) : Prop := ∀ item number n, make (item, number) = some n → n.number = number

theorem le_number_of_mem (keeps : Keeps make) {n : Numbered} (member : n ∈ (items.zipIdx first).filterMap make) :
    first ≤ n.number := by
  obtain ⟨⟨item, number⟩, inside, made⟩ := List.mem_filterMap.mp member
  rw [keeps item number n made]
  exact List.le_snd_of_mem_zipIdx inside

/-- Where nothing is made of another item, what was made at its place is missing, and nothing else. -/
theorem filterMap_zipIdx_set (keeps : Keeps make) {place : Nat} {item : α} (inside : place < items.length)
    (none : make (item, first + place) = none) :
    ((items.set place item).zipIdx first).filterMap make =
      ((items.zipIdx first).filterMap make).filter (·.number ≠ first + place) := by
  induction items generalizing first place with
  | nil => cases inside
  | cons head items ih =>
    cases place with
    | zero =>
      rw [Nat.add_zero] at none ⊢
      have later : ((items.zipIdx (first + 1)).filterMap make).filter (·.number ≠ first) =
          (items.zipIdx (first + 1)).filterMap make := by
        refine List.filter_eq_self.mpr fun n member => ?_
        have above := le_number_of_mem keeps member
        simp only [ne_eq, decide_not, Bool.not_eq_true', decide_eq_false_iff_not]
        omega
      rw [List.set_cons_zero, List.zipIdx_cons, List.zipIdx_cons, List.filterMap_cons_none none]
      cases made : make (head, first) with
      | none => rw [List.filterMap_cons_none made, later]
      | some n =>
        have own : n.number = first := keeps head first n made
        rw [List.filterMap_cons_some made, List.filter_cons_of_neg (by simp [own]), later]
    | succ place =>
      have shifted : first + (place + 1) = first + 1 + place := by omega
      rw [shifted] at none ⊢
      rw [List.set_cons_succ, List.zipIdx_cons, List.zipIdx_cons, List.filterMap_cons, List.filterMap_cons,
        ih (by simpa using inside) none]
      cases made : make (head, first) with
      | none => rfl
      | some n =>
        have own : n.number = first := keeps head first n made
        exact (List.filter_cons_of_pos (by simp [own]; omega)).symm

end

theorem keeps_numbered? (name : Text) : Keeps (Entry.numbered? name) := by
  intro entry number n made
  obtain ⟨pattern, -, rfl⟩ := Option.map_eq_some_iff.mp made
  rfl

theorem Listing.items_replace (listing : Listing) (fields : List (Text × Json)) (place : Nat) (item : Json) :
    listing.items (listing.replace fields place item) = (listing.items fields).set place item := by
  simp [items, itemsAt, replace, Json.asList?]

theorem Listing.field?_replace {field : Text} (other : field ≠ Text.of listing.field) (fields : List (Text × Json))
    (place : Nat) (item : Json) : Json.field? (listing.replace fields place item) field = Json.field? fields field :=
  Json.field?_setField_of_ne other fields _

theorem parameters_replace (listing : Listing) (fields : List (Text × Json)) (place : Nat) (item : Json) :
    parameters (listing.replace fields place item) = parameters fields := by
  have rules : Text.of "rules" ≠ Text.of listing.field := by cases listing <;> decide
  have referral : Text.of "referralMarketing" ≠ Text.of listing.field := by cases listing <;> decide
  simp only [parameters, List.filterMap_cons, List.filterMap_nil, Listing.field?_replace rules,
    Listing.field?_replace referral]

theorem Listing.items_replace_of_ne {other : Listing} (apart : other ≠ listing) (fields : List (Text × Json))
    (place : Nat) (item : Json) : other.items (listing.replace fields place item) = other.items fields := by
  have field : Text.of other.field ≠ Text.of listing.field := by
    cases other <;> cases listing <;> first | exact absurd rfl apart | decide
  rw [items, itemsAt, field?_replace field]
  rfl

/-- The entries of a list stand between others, which do not change where an item is replaced. -/
theorem exists_entries_around (listing : Listing) (fields : List (Text × Json)) (pattern : Json) :
    ∃ before after, before.length = listing.first fields ∧
      entries fields pattern = before ++ ((listing.items fields).map listing.entry ++ after) ∧
      ∀ place item, entries (listing.replace fields place item) pattern =
        before ++ (((listing.items fields).set place item).map listing.entry ++ after) := by
  cases listing with
  | redirections =>
    refine ⟨[], _, rfl, by rw [entries_eq, List.append_assoc]; rfl, fun place item => ?_⟩
    rw [entries_eq, Listing.items_replace, Listing.items_replace_of_ne (by decide), parameters_replace,
      List.append_assoc]
    rfl
  | rawRules =>
    refine ⟨_, _, List.length_map .., by rw [entries_eq, List.append_assoc], fun place item => ?_⟩
    rw [entries_eq, Listing.items_replace, Listing.items_replace_of_ne (by decide), parameters_replace,
      List.append_assoc]

/-- Replacing an item replaces the entry under its number. -/
theorem entries_replace (inside : place < (listing.items fields).length) (item pattern : Json) :
    entries (listing.replace fields place item) pattern =
      (entries fields pattern).set (listing.first fields + place) (listing.entry item) := by
  obtain ⟨before, after, number, own, replaced⟩ := exists_entries_around listing fields pattern
  rw [replaced, own, ← number, List.set_append_right _ _ (Nat.le_add_right ..), Nat.add_sub_cancel_left,
    List.set_append_left _ _ (by simpa using inside), List.map_set]

theorem getElem?_entries (inside : place < (listing.items fields).length) (pattern : Json) :
    (entries fields pattern)[listing.first fields + place]? = some (listing.entry (listing.items fields)[place]) := by
  obtain ⟨before, after, number, own, -⟩ := exists_entries_around listing fields pattern
  rw [own, ← number, List.getElem?_append_right (Nat.le_add_right ..), Nat.add_sub_cancel_left,
    List.getElem?_append_left (by simpa using inside), List.getElem?_map, List.getElem?_eq_getElem inside]
  rfl

/-- The rule of an entry is told by its number. -/
theorem exists_entry_of_mem {n : Numbered} (member : n ∈ numbered name fields url) :
    ∃ entry, (entries fields (.text url))[n.number]? = some entry ∧ n.provider = name ∧ n.kind = entry.kind ∧
      patternOf? entry.pattern = some n.pattern ∧ n.behaviour = entry.behaviour := by
  rw [numbered_eq] at member
  obtain ⟨⟨entry, number⟩, placed, made⟩ := List.mem_filterMap.mp member
  obtain ⟨pattern, given, rfl⟩ := Option.map_eq_some_iff.mp made
  exact ⟨entry, List.mk_mem_zipIdx_iff_getElem?.mp placed, rfl, rfl, given, rfl⟩

/-- An item is replaced by one that is no pattern: the rule under its number is missing, and no other. -/
theorem rules_replace (inside : place < (listing.items fields).length) {item : Json} (none : patternOf? item = none) :
    (numbered name (listing.replace fields place item) url).map Numbered.rule =
      ((numbered name fields url).map Numbered.rule).filter fun r =>
        r.id ≠ ruleId (idStart name) listing.kind (listing.first fields + place) := by
  have missing : numbered name (listing.replace fields place item) url =
      (numbered name fields url).filter (·.number ≠ listing.first fields + place) := by
    have number : listing.first fields + place < (entries fields (.text url)).length :=
      (List.getElem?_eq_some_iff.mp (getElem?_entries inside _)).1
    rw [numbered_eq, numbered_eq, entries_replace inside]
    have nothing : Entry.numbered? name (listing.entry item, 0 + (listing.first fields + place)) = Option.none := by
      simp [Entry.numbered?, Listing.entry, none]
    have lost := filterMap_zipIdx_set (keeps_numbered? name) number nothing
    simpa only [Nat.zero_add] using lost
  rw [missing, List.filter_map]
  congr 1
  refine List.filter_congr fun n member => ?_
  obtain ⟨entry, stands, rfl, kind, -⟩ := exists_entry_of_mem member
  simp only [Function.comp_apply, n.id_rule, Numbered.id, ne_eq, decide_not, Bool.not_inj_iff, decide_eq_decide]
  constructor
  · intro same
    rw [same, getElem?_entries inside] at stands
    obtain rfl := Option.some.inj stands
    rw [kind, same]
    rfl
  · exact fun same => (ruleId_injective same).2.2

/-! ## Malformed providers -/

end ClearUrls

/-- The rules that something gives, unless it is given up. -/
def rules? (made : Except Failure Normalized) : Option (List Rule) := made.toOption.map (·.rules)

section

variable {α : Type} {normalize : α → Except Failure Normalized} {entry : α}

theorem rules?_collect_cons (normalize : α → Except Failure Normalized) (entry : α) (entries : List α) :
    rules? (collect normalize (entry :: entries)) =
      (rules? (normalize entry)).bind fun own => (rules? (collect normalize entries)).map (own ++ ·) := by
  simp only [collect]
  cases normalize entry with
  | error f => rfl
  | ok first => cases collect normalize entries <;> rfl

/-- An entry that gives no rules might as well not be there. -/
theorem rules?_collect_without (nothing : rules? (normalize entry) = some []) (before after : List α) :
    rules? (collect normalize (before ++ entry :: after)) = rules? (collect normalize (before ++ after)) := by
  induction before with
  | nil => simp [rules?_collect_cons, nothing]
  | cons first before ih => rw [List.cons_append, List.cons_append, rules?_collect_cons, rules?_collect_cons, ih]

end

namespace ClearUrls

variable {name : Text} {fields : List (Text × Json)} {url : Text} {value : Json}

theorem rules?_of_malformed (malformed : Malformed value) (name : Text) :
    rules? (normalizeProvider name value) = some [] := by
  unfold normalizeProvider
  dsimp only
  split
  · split
    next fields _ url found => exact absurd found (malformed fields url rfl)
    next => rfl
  · rfl

theorem normalizeDocument_eq {providers : List (Text × Json)}
    (found : Json.field? fields (Text.of "providers") = some (.object providers)) :
    normalizeDocument (.object fields) =
      collect (fun (name, provider) => normalizeProvider name provider) providers := by
  simp only [normalizeDocument, found]

/-- A provider is normalized unless a value that has to be a pattern makes the document be given up, and then it gives
its numbered rules. Replacing an item by one that is no pattern takes its own rule away and changes no other. A
malformed provider gives no rule, and the others of its document give what they give without it. -/
theorem normalizeProvider_numbered (name : Text) (fields : List (Text × Json)) (url : Text)
    (found : Json.field? fields (Text.of "urlPattern") = some (.text url)) :
    ((∃ normalized, normalizeProvider name (.object fields) = .ok normalized) ↔
      ∀ value ∈ patternsIn fields url, ¬GivesUp value) ∧
    (∀ normalized, normalizeProvider name (.object fields) = .ok normalized →
      normalized.rules = (numbered name fields url).map Numbered.rule ∧
      ∀ (listing : Listing) (place : Nat) (item : Json), place < (listing.items fields).length →
        patternOf? item = none → ¬GivesUp item →
        ∃ replaced, normalizeProvider name (.object (listing.replace fields place item)) = .ok replaced ∧
          replaced.rules = normalized.rules.filter fun r =>
            r.id ≠ ruleId (idStart name) listing.kind (listing.first fields + place)) ∧
    ∀ (key : Text) (malformed : Json) (before after data others : List (Text × Json)), Malformed malformed →
      Json.field? data (Text.of "providers") = some (.object (before ++ (key, malformed) :: after)) →
      Json.field? others (Text.of "providers") = some (.object (before ++ after)) →
      rules? (normalizeProvider key malformed) = some [] ∧
        rules? (normalizeDocument (.object data)) = rules? (normalizeDocument (.object others)) := by
  refine ⟨normalizeProvider_ok_iff found, fun normalized given => ⟨rules_normalizeProvider found given, ?_⟩, ?_⟩
  · intro listing place item inside none stays
    have found' : Json.field? (listing.replace fields place item) (Text.of "urlPattern") = some (.text url) := by
      rw [Listing.field?_replace (by cases listing <;> decide), found]
    have each := (normalizeProvider_ok_iff found).mp ⟨normalized, given⟩
    have each' : ∀ value ∈ patternsIn (listing.replace fields place item) url, ¬GivesUp value := by
      intro value member
      rw [← patterns_entries, entries_replace inside, List.map_set, patterns_entries] at member
      rcases List.mem_or_eq_of_mem_set member with old | rfl
      · exact each value old
      · exact stays
    obtain ⟨replaced, given'⟩ : ∃ replaced, normalizeProvider name (.object (listing.replace fields place item)) =
        .ok replaced := (normalizeProvider_ok_iff found').mpr each'
    refine ⟨replaced, given', ?_⟩
    rw [rules_normalizeProvider found' given', rules_normalizeProvider found given]
    exact rules_replace inside none
  · intro key malformed before after data others wrong stands stands'
    have nothing := rules?_of_malformed wrong key
    refine ⟨nothing, ?_⟩
    rw [normalizeDocument_eq stands, normalizeDocument_eq stands']
    exact @rules?_collect_without _ _ (key, malformed) nothing before after

/-- A provider with two redirections and two raw rules, of which one each is no pattern, and parameters of both
kinds. -/
def mixedFields : List (Text × Json) :=
  [(Text.of "urlPattern", .text (Text.of "u")),
    (Text.of "redirections", .list [.text (Text.of "("), .text (Text.of "r")]),
    (Text.of "rawRules", .list [.int 1, .text (Text.of "w")]),
    (Text.of "rules", .list [.text (Text.of "a")]),
    (Text.of "referralMarketing", .list [.text (Text.of "b")])]

/-- The one raw rule is the second item of its list, and so has the fourth number. It alone is lost when null stands
there. -/
theorem normalizeProvider_numbered_mixed :
    ∃ normalized replaced, normalizeProvider (Text.of "P") (.object mixedFields) = .ok normalized ∧
      normalized.rules.map (·.id) =
        ["clearurls-p-redirect-1", "clearurls-p-raw-3", "clearurls-p-params-4", "clearurls-p-referral-5"].map Text.of ∧
      normalizeProvider (Text.of "P") (.object (Listing.rawRules.replace mixedFields 1 .null)) = .ok replaced ∧
      replaced.rules.map (·.id) =
        ["clearurls-p-redirect-1", "clearurls-p-params-4", "clearurls-p-referral-5"].map Text.of := by
  have found : Json.field? mixedFields (Text.of "urlPattern") = some (.text (Text.of "u")) := by decide
  obtain ⟨-, rules, -⟩ := normalizeProvider_numbered (Text.of "P") mixedFields (Text.of "u") found
  obtain ⟨normalized, given⟩ : ∃ normalized, normalizeProvider (Text.of "P") (.object mixedFields) = .ok normalized :=
    ⟨_, rfl⟩
  obtain ⟨same, replace⟩ := rules normalized given
  obtain ⟨replaced, given', same'⟩ := replace .rawRules 1 .null (by decide) rfl (by rintro ⟨s, e, text, -⟩; cases text)
  rw [same] at same'
  exact ⟨normalized, replaced, given, by rw [same]; decide +kernel, given', by rw [same']; decide +kernel⟩

end ClearUrls
end UrlRules.Provider
