import UrlRules.Proofs.Store.Actions
import UrlRules.Proofs.Store.Operations
import UrlRules.Proofs.Store.Positions

/-!
# The list that a store keeps

`Filed rows entries` says that rows are those of entries, in any order, which have rising positions, distinct
ids, and rules that come back from their rows. `Represents s entries` is the invariant of a store: its rows
are filed, and all of them are committed. The store then `Keeps` the rules of the entries in their order, and
that list is what is read. Connections make no difference to it, and changing or deleting rows changes the
list in place.
-/
namespace UrlRules.Store

open Text

/-- Rows that hold entries in their order. -/
structure Filed (rows : List Row) (entries : List Entry) : Prop where
  rows : ∃ stored : List Entry, stored.Perm entries ∧ rows = stored.map Entry.row
  rising : Rising entries
  distinct : (entries.map (·.rule.id)).Nodup
  kept : ∀ e ∈ entries, e.rule.Kept

/-- A store that holds entries in their order, all of them committed. -/
structure Represents (s : Store) (entries : List Entry) : Prop extends Filed s.rows entries where
  usable : s.Usable
  saved : s.saved = s.rows

/-- A store that keeps rules in their order. -/
def Keeps (s : Store) (rules : List Rule) : Prop :=
  ∃ entries, Represents s entries ∧ entries.map (·.rule) = rules

variable {s : Store} {rows : List Row} {entries : List Entry} {rules : List Rule} {id : Text}

/-! ## Reading -/

theorem Filed.rulesOf (filed : Filed rows entries) : rulesOf rows = .ok (entries.map (·.rule)) := by
  obtain ⟨stored, same, rows⟩ := filed.rows
  rw [Store.rulesOf, rows, inOrder_rows same filed.rising]
  refine Row.mapM_of_each entries Entry.row (ruleOf .list) (·.rule) fun e member => ?_
  rw [ruleOf, Entry.row, Row.toRule_ofRule (filed.kept e member)]

theorem Filed.any_hasId (filed : Filed rows entries) (id : Text) :
    rows.any (hasId id) = decide (id ∈ (entries.map (·.rule)).map (·.id)) := by
  obtain ⟨stored, same, rows⟩ := filed.rows
  rw [rows, List.any_map, Bool.eq_iff_iff]
  simp [same.mem_iff]

/-- At most one entry has an id. -/
theorem find?_id_iff (distinct : (entries.map (·.rule.id)).Nodup) {e : Entry} :
    entries.find? (fun e => e.rule.id = id) = some e ↔ e ∈ entries ∧ e.rule.id = id := by
  constructor
  · intro found
    exact ⟨List.mem_of_find?_eq_some found, by simpa using List.find?_some found⟩
  · rintro ⟨member, rfl⟩
    cases found : entries.find? fun f => f.rule.id = e.rule.id with
    | none =>
      rw [List.find?_eq_none] at found
      exact absurd (by simp) (found e member)
    | some f =>
      have member' := List.mem_of_find?_eq_some found
      have named : f.rule.id = e.rule.id := by simpa using List.find?_some found
      rw [List.inj_on_of_nodup_map distinct member' member named]

/-- The first row found is that of the first entry found, whatever the order of the rows. -/
theorem Filed.find? (filed : Filed rows entries) (id : Text) :
    rows.find? (hasId id) = (entries.find? fun e => e.rule.id = id).map Entry.row := by
  obtain ⟨stored, same, rows⟩ := filed.rows
  have distinct : (stored.map (·.rule.id)).Nodup := (same.map _).nodup_iff.mpr filed.distinct
  have first : stored.find? (fun e => e.rule.id = id) = entries.find? fun e => e.rule.id = id := by
    refine Option.ext fun e => ?_
    rw [find?_id_iff distinct, find?_id_iff filed.distinct, same.mem_iff]
  rw [rows, List.find?_map, ← first]
  congr 2
  funext e
  exact hasId_row id e

theorem list_of_keeps (keeps : Keeps s rules) : (list.run s).1 = .ok rules := by
  obtain ⟨entries, represents, rfl⟩ := keeps
  rw [run_list represents.usable, represents.rulesOf]

theorem enabled_of_keeps (keeps : Keeps s rules) :
    (enabled.run s).1 = .ok (rules.filter (·.enabled)) := by
  obtain ⟨entries, represents, rfl⟩ := keeps
  rw [run_enabled represents.usable, represents.rulesOf]
  rfl

theorem find_of_keeps (keeps : Keeps s rules) (unicode : id.IsUnicode) :
    ((find id).run s).1 = .ok (rules.find? fun r => r.id = id) := by
  obtain ⟨entries, represents, rfl⟩ := keeps
  have named : ((fun r : Rule => decide (r.id = id)) ∘ Entry.rule) = fun e => decide (e.rule.id = id) := rfl
  rw [run_find represents.usable unicode.isScalar, represents.find?, List.find?_map, named]
  cases found : entries.find? fun e => e.rule.id = id with
  | none => rfl
  | some e =>
    have member := List.mem_of_find?_eq_some found
    have read := Row.toRule_ofRule (represents.kept e member) (.integer e.position)
    simp [ruleOf, Entry.row, read, Except.map]

theorem Keeps.usable (keeps : Keeps s rules) : s.Usable := by
  obtain ⟨entries, represents, -⟩ := keeps
  exact represents.usable

theorem Keeps.kept (keeps : Keeps s rules) : ∀ r ∈ rules, r.Kept := by
  obtain ⟨entries, represents, rfl⟩ := keeps
  intro r member
  obtain ⟨e, inside, rfl⟩ := List.mem_map.mp member
  exact represents.kept e inside

theorem Keeps.distinct (keeps : Keeps s rules) : (rules.map (·.id)).Nodup := by
  obtain ⟨entries, represents, rfl⟩ := keeps
  rw [List.map_map]
  exact represents.distinct

/-! ## Connections -/

theorem Represents.connection (represents : Represents s entries) (connected : Bool) :
    Represents { s with connected } entries :=
  ⟨represents.toFiled, ⟨represents.usable.medium, represents.usable.hasTable⟩, represents.saved⟩

theorem Keeps.opened (keeps : Keeps s rules) : Keeps s.opened rules := by
  obtain ⟨entries, represents, same⟩ := keeps
  exact ⟨entries, represents.connection true, same⟩

theorem prepare_of_keeps (keeps : Keeps s rules) :
    (prepare.run s).1 = .ok () ∧ Keeps (prepare.run s).2 rules := by
  have opened := keeps.opened
  obtain ⟨entries, represents, same⟩ := keeps
  rw [run_prepare represents.usable.medium]
  have prepared : { s.opened with hasTable := true } = s.opened := by
    rw [← represents.usable.opened.hasTable]
  exact ⟨rfl, by rwa [prepared]⟩

/-- Nothing is lost with the connection, since everything is committed. -/
theorem close_of_keeps (keeps : Keeps s rules) : Keeps (close.run s).2 rules := by
  obtain ⟨entries, represents, same⟩ := keeps
  have closed : (close.run s).2 = { s with connected := false } := by
    rw [run_close, represents.saved]
  rw [closed]
  exact ⟨entries, represents.connection false, same⟩

/-- Nothing is lost with what is rolled back either. -/
theorem Keeps.rolledBack (keeps : Keeps s rules) : Keeps { s.opened with rows := s.saved } rules := by
  obtain ⟨entries, represents, same⟩ := keeps
  rw [represents.saved]
  exact ⟨entries, represents.connection true, same⟩

/-! ## Changing rows -/

/-- The rules of entries, some of them changed. -/
def Entry.edit (edit : Rule → Rule) (e : Entry) : Entry := { e with rule := edit e.rule }

/-- A change of rows that changes rules, one for one, and keeps their ids. -/
theorem Filed.map (filed : Filed rows entries) (editRow : Row → Row) (edit : Rule → Rule)
    (agrees : ∀ e ∈ entries, editRow e.row = (e.edit edit).row)
    (right : ∀ e ∈ entries, (edit e.rule).id = e.rule.id ∧ (edit e.rule).Kept) :
    Filed (rows.map editRow) (entries.map (Entry.edit edit)) := by
  obtain ⟨stored, same, rows⟩ := filed.rows
  refine ⟨⟨stored.map (Entry.edit edit), same.map _, ?_⟩, ?_, ?_, ?_⟩
  · simp only [rows, List.map_map]
    exact List.map_congr_left fun e member => agrees e (same.mem_iff.mp member)
  · -- Positions stay as they are.
    exact List.pairwise_map.mpr filed.rising
  · have ids : (entries.map (Entry.edit edit)).map (·.rule.id) = entries.map (·.rule.id) := by
      rw [List.map_map]
      exact List.map_congr_left fun e member => (right e member).1
    rw [ids]
    exact filed.distinct
  · intro e' member
    obtain ⟨e, inside, rfl⟩ := List.mem_map.mp member
    exact (right e inside).2

/-- Changing the rows with an id changes the rule with that id. -/
theorem Filed.change (filed : Filed rows entries) (editRow : Row → Row) (edit : Rule → Rule)
    (agrees : ∀ e : Entry, e.rule.id = id → editRow e.row = (e.edit edit).row)
    (right : ∀ r : Rule, r.Kept → r.id = id → (edit r).id = id ∧ (edit r).Kept) :
    Filed (rows.map fun row => if hasId id row then editRow row else row)
      (entries.map (Entry.edit fun r => if r.id = id then edit r else r)) := by
  refine filed.map _ _ ?_ ?_
  · intro e member
    simp only [hasId_row, decide_eq_true_eq]
    by_cases named : e.rule.id = id
    · rw [if_pos named, agrees e named]
      simp [Entry.edit, named]
    · simp [Entry.edit, named]
  · intro e member
    by_cases named : e.rule.id = id
    · simpa [named] using right e.rule (filed.kept e member) named
    · simpa [named] using filed.kept e member

theorem Filed.filter (filed : Filed rows entries) (id : Text) :
    Filed (rows.filter fun row => !hasId id row) (entries.filter fun e => e.rule.id ≠ id) := by
  obtain ⟨stored, same, rows⟩ := filed.rows
  have left : (entries.filter fun e => e.rule.id ≠ id).Sublist entries := List.filter_sublist
  refine ⟨⟨stored.filter fun e => e.rule.id ≠ id, same.filter _, ?_⟩, filed.rising.sublist left,
    filed.distinct.sublist (left.map _), fun e member => filed.kept e (left.subset member)⟩
  simp [rows, List.filter_map, Function.comp_def]

/-- Changing the rule with an id in place. -/
theorem change_of_keeps (keeps : Keeps s rules) (attempt : Attempt) {texts : List Text}
    (encodable : Row.unencodable? (texts ++ [id]) = none) (editRow : Row → Row) (edit : Rule → Rule)
    (agrees : ∀ e : Entry, e.rule.id = id → editRow e.row = (e.edit edit).row)
    (right : ∀ r : Rule, r.Kept → r.id = id → (edit r).id = id ∧ (edit r).Kept) :
    ((change attempt id texts editRow).run s).1 =
        (if id ∈ rules.map (·.id) then .ok () else .error (.notFound id)) ∧
      Keeps ((change attempt id texts editRow).run s).2
        (rules.map fun r => if r.id = id then edit r else r) := by
  obtain ⟨entries, represents, rfl⟩ := keeps
  rw [run_change represents.usable attempt id encodable, represents.any_hasId id]
  refine ⟨by simp only [decide_eq_true_eq], _, ⟨represents.toFiled.change editRow edit agrees right,
    ⟨represents.usable.medium, represents.usable.hasTable⟩, rfl⟩, ?_⟩
  simp [Entry.edit, Function.comp_def]

theorem delete_of_keeps (keeps : Keeps s rules) (unicode : id.IsUnicode) :
    ((delete id).run s).1 = .ok (decide (id ∈ rules.map (·.id))) ∧
      Keeps ((delete id).run s).2 (rules.filter fun r => r.id ≠ id) := by
  obtain ⟨entries, represents, rfl⟩ := keeps
  rw [run_delete represents.usable unicode.isScalar, represents.any_hasId id]
  refine ⟨rfl, _, ⟨represents.toFiled.filter id, ⟨represents.usable.medium, represents.usable.hasTable⟩, rfl⟩, ?_⟩
  rw [List.filter_map]
  simp [Function.comp_def]

end UrlRules.Store
