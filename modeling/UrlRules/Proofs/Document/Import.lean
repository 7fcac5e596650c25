import Mathlib
import UrlRules.Proofs.Document.Entries
import UrlRules.Proofs.Rule.Wire

/-!
# Documents written and read

The document that holds rules is read back as those rules, from the source that is given
(`parse_ofRules`), and so is its text (`read_textOfRules`). Whatever a document is read as are well-typed
rules, with distinct ids where that is asked for (`wellTyped_of_parse`). So importing what was exported
gives the rules back, under new ids if there is a supply of them, and importing what was exported after
an import changes nothing (`importRules_ofRules`).
-/
namespace UrlRules

open Text

namespace Document

variable {source : Option Text} {unique : Bool} {rules : List Rule} {data : Json}

/-! ## Reading what is written -/

theorem parse_list (typed : ∀ r ∈ rules, r.WellTyped) (source : Option Text)
    (distinct : unique → (rules.map (·.id)).Nodup) {data : Json}
    (entries : entriesOf data = .ok (rules.map Rule.toJson)) :
    parse data source unique = .ok (rules.map (·.fromSource source)) := by
  rw [parse_eq_ok_iff entries, List.forall₂_map_left_iff, List.forall₂_map_right_iff, List.forall₂_same, List.map_map]
  exact ⟨fun r member => Rule.ofJson_toJson (typed r member) source, distinct⟩

theorem entriesOf_ofRules (rules : List Rule) :
    entriesOf (ofRules rules) = .ok (rules.map Rule.toJson) := by
  rfl

/-- The text of the document that holds rules is read as that document. -/
theorem read_textOfRules (typed : ∀ r ∈ rules, r.WellTyped) :
    Json.read (textOfRules rules) = .ok (ofRules rules) := by
  have entries : (Json.list (rules.map Rule.toJson)).Regular :=
    Json.regular_map fun r inside => Rule.regular_toJson (typed r inside)
  exact Json.read_document ⟨by simp, entries, trivial⟩

/-! ## What is read is well typed -/

theorem entriesOf_of_parse (read : parse data source unique = .ok rules) :
    ∃ entries, entriesOf data = .ok entries := by
  unfold parse at read
  split at read
  · cases read
  next entries listed => exact ⟨entries, listed⟩

/-- Each rule of a document is read from one of its entries. -/
theorem ofJson_of_parse (read : parse data source unique = .ok rules) :
    ∃ entries, entriesOf data = .ok entries ∧
      (∀ r ∈ rules, ∃ entry ∈ entries, Rule.ofJson entry source = .ok r) ∧
      (unique → (rules.map (·.id)).Nodup) := by
  obtain ⟨entries, listed⟩ := entriesOf_of_parse read
  obtain ⟨all, distinct⟩ := (parse_eq_ok_iff listed).mp read
  exact ⟨entries, listed, fun r member => exists_of_forall₂ all member, distinct⟩

theorem wellTyped_of_parse (read : parse data source unique = .ok rules) :
    (∀ r ∈ rules, r.WellTyped ∧ r.source = source) ∧ (unique → (rules.map (·.id)).Nodup) := by
  obtain ⟨entries, -, origin, distinct⟩ := ofJson_of_parse read
  refine ⟨fun r member => ?_, distinct⟩
  obtain ⟨entry, -, made⟩ := origin r member
  exact Rule.wellTyped_of_ofJson made

/-- What is read where ids have to be distinct is read the same where they have not. -/
theorem parse_of_unique (read : parse data source true = .ok rules) : parse data source false = .ok rules := by
  obtain ⟨entries, listed⟩ := entriesOf_of_parse read
  exact (parse_eq_ok_iff listed).mpr ⟨((parse_eq_ok_iff listed).mp read).1, by simp⟩

/-! ## Importing what was exported -/

/-- Rules that came from nowhere are read back as they were exported. -/
theorem parse_ofRules (typed : ∀ r ∈ rules, r.WellTyped ∧ r.source = none) (distinct : (rules.map (·.id)).Nodup) :
    parse (ofRules rules) none true = .ok rules := by
  have read : parse (ofRules rules) none true = .ok (rules.map (·.fromSource none)) :=
    parse_list (fun r member => (typed r member).1) none (fun _ => distinct) (entriesOf_ofRules rules)
  have same : rules.map (·.fromSource none) = rules :=
    (List.map_congr_left fun r member => by rw [Rule.fromSource, ← (typed r member).2]).trans (List.map_id' rules)
  rwa [same] at read

/-- Without a supply of ids an import is what is read. -/
theorem importRules_none : importRules data none = parse data none true := by
  unfold importRules
  cases parse data none true <;> rfl

/-- Rules under the ids of a supply, the i-th one under the i-th id. -/
def renamed (supply : Nat → Text) (rules : List Rule) : List Rule :=
  rules.mapIdx fun i r => { r with id := supply i }

theorem remap_texts (valid : ∀ r ∈ rules, r.Valid) (supply : Nat → Text) (start : Nat)
    (nonempty : ∀ i < start + rules.length, supply i ≠ []) :
    remap (fun i => .text (supply i)) start rules =
      .ok (renamed (fun i => supply (start + i)) rules) := by
  induction rules generalizing start with
  | nil => rfl
  | cons r rules ih =>
    rw [List.length_cons] at nonempty
    have first := Rule.withId_text (valid r (by simp)) (nonempty start (by omega))
    have others := ih (fun other member => valid other (by simp [member])) (start + 1) fun i inside =>
      nonempty i (by omega)
    simp [remap, first, others, renamed, List.mapIdx_cons, bind, Except.bind, pure, Except.pure,
      Nat.add_assoc, Nat.add_comm 1]

/-- Importing what was exported. The rules come back in their order, but for where they came from; with a
supply of ids the i-th rule bears the i-th id, and nothing else is changed. The text of the export is read
as the export, so all this holds through it. And whatever a document is imported as is imported again from
its export, and does not change. -/
theorem importRules_ofRules :
    (∀ rules : List Rule, (∀ r ∈ rules, r.WellTyped) → (rules.map (·.id)).Nodup →
      importRules (ofRules rules) none = .ok (rules.map (·.fromSource none)) ∧
      (∀ supply : Nat → Text, (∀ i < rules.length, supply i ≠ []) →
        importRules (ofRules rules) (some fun i => .text (supply i)) =
          .ok (renamed supply (rules.map (·.fromSource none)))) ∧
      Json.read (textOfRules rules) = .ok (ofRules rules)) ∧
    ∀ data rules, importRules data none = .ok rules →
      importRules (ofRules rules) none = .ok rules := by
  have exported : ∀ rules : List Rule, (∀ r ∈ rules, r.WellTyped) → (rules.map (·.id)).Nodup →
      parse (ofRules rules) none true = .ok (rules.map (·.fromSource none)) :=
    fun rules typed distinct => parse_list typed none (fun _ => distinct) (entriesOf_ofRules rules)
  constructor
  · intro rules typed distinct
    have parsed := exported rules typed distinct
    refine ⟨by simp [importRules, parsed], fun supply nonempty => ?_, read_textOfRules typed⟩
    have valid : ∀ r ∈ rules.map (·.fromSource none), r.Valid := by
      intro r member
      obtain ⟨q, inside, rfl⟩ := List.mem_map.mp member
      exact (typed q inside).valid.fromSource none
    have named := remap_texts valid supply 0 (by simpa using nonempty)
    simp only [Nat.zero_add] at named
    simp [importRules, parsed, named]
  · intro data rules imported
    have read : parse data none true = .ok rules := by
      unfold importRules at imported
      split at imported
      · cases imported
      next found parsed => rw [parsed, Except.ok.inj imported]
    obtain ⟨typed, distinct⟩ := wellTyped_of_parse read
    have parsed := exported rules (fun r member => (typed r member).1) (distinct rfl)
    have same : rules.map (·.fromSource none) = rules :=
      calc rules.map (·.fromSource none)
          = rules.map fun r => r := List.map_congr_left fun r member => by
            rw [Rule.fromSource, ← (typed r member).2]
        _ = rules := List.map_id' rules
    rw [same] at parsed
    simp [importRules, parsed]

/-- Two rules, one with an example and a source, and a list of one rule in its older form, with a field
that is empty and one that is not known. -/
theorem importRules_ofRules_older :
    let first : Rule := { Rule.letterRule 0x61 0x62 with
      examples := [⟨.text [0x61], .text [0x62]⟩], source := some [0x78] }
    let second : Rule := Rule.letterRule 0x62 0x63
    let older : Json := .list [.object [(Text.of "id", .text [0x61]), (Text.of "from", .text [0x61]),
      (Text.of "to", .text [0x62]), (Text.of "test", .null), (Text.of "note", .bool true)]]
    importRules (ofRules [first, second]) none = .ok [{ first with source := none }, second] ∧
    importRules (ofRules [first, second]) (some fun i => .text [0x78 + i]) =
      .ok [{ first with source := none, id := [0x78] }, { second with id := [0x79] }] ∧
    Json.read (textOfRules [first, second]) = .ok (ofRules [first, second]) ∧
    importRules older none = .ok [Rule.letterRule 0x61 0x62] ∧
    importRules (ofRules [Rule.letterRule 0x61 0x62]) none = .ok [Rule.letterRule 0x61 0x62] := by
  intro first second older
  have firstValid : (Rule.letterRule 0x61 0x62).Valid := Rule.valid_letterRule ⟨_, by cbv⟩
  have secondValid : second.Valid := Rule.valid_letterRule ⟨_, by cbv⟩
  have typed : ∀ r ∈ [first, second], r.WellTyped := by
    intro r member
    simp only [List.mem_cons, List.not_mem_nil, or_false] at member
    rcases member with rfl | rfl
    · exact ⟨⟨firstValid.id_ne_nil, firstValid.pattern_ne_nil, firstValid.pattern_reads,
        firstValid.one_behaviour, firstValid.names_ne_nil⟩, by simp [first, Example.IsText]⟩
    · exact ⟨secondValid, by simp [second, Rule.letterRule]⟩
  obtain ⟨same, under, text⟩ := importRules_ofRules.1 [first, second] typed (by decide)
  have imported : importRules older none = .ok [Rule.letterRule 0x61 0x62] := by cbv
  exact ⟨same, under (fun i => [0x78 + i]) (by simp), text, imported,
    importRules_ofRules.2 older _ imported⟩

end Document
end UrlRules
