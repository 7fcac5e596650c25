import Mathlib
import UrlRules.Proofs.Store.Insertion

/-!
# The store as a list

A store that keeps a list goes on keeping one, whatever is asked of it: each operation answers as
`Operation.onList` says and leaves the list it says (`onStore_keeps`). So every run from an empty
store answers like the run on the empty list, and what is read at the end is the list at the end
(`runAll_onStore`). That the database executes every statement means that it refuses no position, and that
no batch has more ids than a statement may have parameters.
-/
namespace UrlRules.Store

open Text

/-- An operation as a step of the store. -/
def Operation.onStore (operation : Operation) (s : Store) : Except Error Reply × Store :=
  operation.perform.run s

variable {s : Store} {rules : List Rule} {capacity : Capacity} {files : Files} {path : Path}

/-! ## One operation -/

theorem run_done (x : Action Unit) (s : Store) :
    (do x; return Reply.done : Action Reply).run s = ((x.run s).1.map fun _ => .done, (x.run s).2) := by
  rw [run_bind]
  rcases x.run s with ⟨answer, s'⟩
  cases answer <;> rfl

theorem Executed.of_map {α β : Type} {answer : Except Error α} {f : α → β} (executed : Executed (answer.map f)) :
    Executed answer :=
  ⟨fun refused => executed.position (by rw [refused]; rfl), fun refused => executed.parameters (by rw [refused]; rfl)⟩

theorem insertAll_keeps {new : List Rule} {first : Bool} (keeps : Keeps s rules)
    (storable : ∀ r ∈ new, r.Storable) (executed : Executed ((Operation.insertAll new first).onStore s).1) :
    ((Operation.insertAll new first).onStore s).1 = (Operation.addTo rules new first).1 ∧
      Keeps ((Operation.insertAll new first).onStore s).2 (Operation.addTo rules new first).2 := by
  simp only [Operation.onStore, Operation.perform, run_done] at executed ⊢
  have executed : Executed ((insertAll new first).run s).1 := executed.of_map
  exact insertAll_of_keeps keeps (fun r member => (storable r member).recorded) (few_of_executed keeps executed)
    executed.position

/-- A batch that is refused for anything else than a position leaves the list as it was. -/
theorem insertAll_refused {new : List Rule} {first : Bool} {e : Error} (keeps : Keeps s rules)
    (storable : ∀ r ∈ new, r.Storable) (other : e ≠ .positionTooLarge)
    (refused : ((Operation.insertAll new first).onStore s).1 = .error e) :
    Keeps ((Operation.insertAll new first).onStore s).2 rules := by
  simp only [Operation.onStore, Operation.perform, run_done] at refused ⊢
  cases answer : ((insertAll new first).run s).1 with
  | ok _ =>
    rw [answer] at refused
    cases refused
  | error e' =>
    rw [answer] at refused
    obtain rfl : e' = e := Except.error.inj refused
    exact insertAll_refused_keeps keeps (fun r member => (storable r member).recorded) answer other

/-- A rule changed in place, or nothing changed if there is none. -/
theorem edit_keeps {x : Action Unit} {id : Text} {edit : Rule → Rule}
    (answer : (x.run s).1 = if id ∈ rules.map (·.id) then .ok () else .error (.notFound id))
    (keeps : Keeps (x.run s).2 (rules.map fun r => if r.id = id then edit r else r)) :
    (x.run s).1.map (fun _ => Reply.done) = (Operation.editIn rules id edit).1 ∧
      Keeps (x.run s).2 (Operation.editIn rules id edit).2 := by
  rw [answer, Operation.editIn]
  by_cases found : id ∈ rules.map (·.id)
  · rw [if_pos found, if_pos found]
    exact ⟨rfl, keeps⟩
  · -- No rule has the id, so no rule is changed.
    have same : rules.map (fun r => if r.id = id then edit r else r) = rules :=
      calc rules.map (fun r => if r.id = id then edit r else r)
          = rules.map fun r => r := List.map_congr_left fun r member =>
            if_neg fun named => found (List.mem_map.mpr ⟨r, member, named⟩)
        _ = rules := List.map_id' rules
    rw [if_neg found, if_neg found]
    exact ⟨rfl, same ▸ keeps⟩

/-- A store takes as many parameters in a statement after an operation as before. -/
theorem capacity_onStore (usable : s.Usable) (operation : Operation) :
    (operation.onStore s).2.capacity = s.capacity := by
  cases operation with
  | insert r first =>
    simp only [Operation.onStore, Operation.perform, run_done]
    exact capacity_insertAll usable [r] first
  | insertAll new first =>
    simp only [Operation.onStore, Operation.perform, run_done]
    exact capacity_insertAll usable new first
  | update r =>
    simp only [Operation.onStore, Operation.perform, run_done]
    exact capacity_change usable _ _ _ _
  | setEnabled id value =>
    simp only [Operation.onStore, Operation.perform, run_done]
    exact capacity_change usable _ _ _ _
  | delete id =>
    have deleted := capacity_delete usable id
    simp only [Operation.onStore, Operation.perform, run_bind]
    rcases ran : (delete id).run s with ⟨answer, s'⟩
    rw [ran] at deleted
    cases answer <;> exact deleted
  | prepare =>
    simp only [Operation.onStore, Operation.perform, run_done]
    exact capacity_prepare usable.medium
  | close => rfl
  | reopen =>
    simp only [Operation.onStore, Operation.perform, run_done, run_reopen]
    exact capacity_prepare usable.medium

/-- Replacing the cells of a row gives the row of the new rule. -/
theorem withRule_row {e : Entry} {r : Rule} (named : e.rule.id = r.id) :
    e.row.withRule r = (e.edit fun _ => r.unsourced).row := by
  simp only [Entry.row, Entry.edit, Row.ofRule, Row.withRule, Rule.unsourced, named]
  rfl

theorem update_keeps {r : Rule} (keeps : Keeps s rules) (storable : r.Storable) :
    ((Operation.update r).onStore s).1 = ((Operation.update r).onList rules).1 ∧
      Keeps ((Operation.update r).onStore s).2 ((Operation.update r).onList rules).2 := by
  have encodable : Row.unencodable? (Row.textsOf r ++ [r.id]) = none := by
    refine unencodable?_of_unicode fun text member => ?_
    rcases List.mem_append.mp member with own | named
    · exact unicode_of_recorded storable.recorded text own
    · rw [List.mem_singleton.mp named]
      exact storable.id_unicode
  obtain ⟨answer, kept⟩ := change_of_keeps keeps (.update r.id) encodable (·.withRule r)
    (fun _ => r.unsourced) (fun _ => withRule_row) fun _ _ _ => ⟨rfl, storable.recorded.kept_unsourced⟩
  simp only [Operation.onStore, Operation.perform, run_done]
  exact edit_keeps answer kept

theorem setEnabled_keeps {id : Text} {value : Bool} (keeps : Keeps s rules) (unicode : id.IsUnicode) :
    ((Operation.setEnabled id value).onStore s).1 = ((Operation.setEnabled id value).onList rules).1 ∧
      Keeps ((Operation.setEnabled id value).onStore s).2
        ((Operation.setEnabled id value).onList rules).2 := by
  have encodable : Row.unencodable? ([] ++ [id]) = none :=
    unencodable?_of_unicode fun text member => by rwa [List.mem_singleton.mp member]
  obtain ⟨answer, kept⟩ := change_of_keeps keeps (.toggle id) encodable
    (fun row => { row with enabled := .integer (if value then 1 else 0) })
    (fun r => { r with enabled := value }) (fun _ _ => rfl) fun _ kept named =>
      ⟨named, kept.withEnabled value⟩
  simp only [Operation.onStore, Operation.perform, run_done]
  exact edit_keeps answer kept

theorem delete_keeps {id : Text} (keeps : Keeps s rules) (unicode : id.IsUnicode) :
    ((Operation.delete id).onStore s).1 = ((Operation.delete id).onList rules).1 ∧
      Keeps ((Operation.delete id).onStore s).2 ((Operation.delete id).onList rules).2 := by
  obtain ⟨answer, kept⟩ := delete_of_keeps keeps unicode
  simp only [Operation.onStore, Operation.perform, run_bind]
  rcases ran : (delete id).run s with ⟨found, s'⟩
  rw [ran] at answer kept
  dsimp only at answer kept
  subst answer
  exact ⟨rfl, kept⟩

theorem reopen_keeps (keeps : Keeps s rules) :
    (Operation.reopen.onStore s).1 = .ok .done ∧ Keeps (Operation.reopen.onStore s).2 rules := by
  obtain ⟨answer, kept⟩ := prepare_of_keeps (close_of_keeps keeps)
  simp only [Operation.onStore, Operation.perform, run_done, run_reopen, answer]
  exact ⟨rfl, kept⟩

/-- One operation: it answers as it does on the list, and the store keeps what it makes of the list. -/
theorem onStore_keeps (operation : Operation) (keeps : Keeps s rules) (storable : operation.Storable)
    (executed : Executed (operation.onStore s).1) :
    (operation.onStore s).1 = (operation.onList rules).1 ∧
      Keeps (operation.onStore s).2 (operation.onList rules).2 := by
  cases operation with
  | insert r first =>
    exact insertAll_keeps keeps (by simpa [Operation.Storable] using storable) executed
  | insertAll new first => exact insertAll_keeps keeps storable executed
  | update r => exact update_keeps keeps storable
  | setEnabled id value => exact setEnabled_keeps keeps storable
  | delete id => exact delete_keeps keeps storable
  | prepare =>
    obtain ⟨answer, kept⟩ := prepare_of_keeps keeps
    simp only [Operation.onStore, Operation.perform, run_done, answer]
    exact ⟨rfl, kept⟩
  | close =>
    have kept := close_of_keeps keeps
    simp only [Operation.onStore, Operation.perform, run_done]
    exact ⟨rfl, kept⟩
  | reopen => exact reopen_keeps keeps

/-- An operation that is refused for anything else than a position leaves the list as it was. -/
theorem onStore_refused {operation : Operation} {e : Error} (keeps : Keeps s rules) (storable : operation.Storable)
    (other : e ≠ .positionTooLarge) (refused : (operation.onStore s).1 = .error e) :
    Keeps (operation.onStore s).2 rules := by
  have unchanged (agrees : (operation.onStore s).1 = (operation.onList rules).1 ∧
      Keeps (operation.onStore s).2 (operation.onList rules).2) : Keeps (operation.onStore s).2 rules :=
    Operation.onList_refused (agrees.1.symm.trans refused) ▸ agrees.2
  cases operation with
  | insert r first => exact insertAll_refused keeps (by simpa [Operation.Storable] using storable) other refused
  | insertAll new first => exact insertAll_refused keeps storable other refused
  | update r => exact unchanged (update_keeps keeps storable)
  | setEnabled id value => exact unchanged (setEnabled_keeps keeps storable)
  | delete id => exact unchanged (delete_keeps keeps storable)
  | prepare =>
    have kept := (prepare_of_keeps keeps).2
    simpa only [Operation.onStore, Operation.perform, run_done] using kept
  | close =>
    have kept := close_of_keeps keeps
    simpa only [Operation.onStore, Operation.perform, run_done] using kept
  | reopen => exact (reopen_keeps keeps).2

/-- What is answered for a list is nothing that the database refuses. -/
theorem Operation.executed_onList (operation : Operation) (rules : List Rule) :
    Executed (operation.onList rules).1 := by
  have added (new : List Rule) (first : Bool) : Executed (addTo rules new first).1 := by
    unfold addTo
    split
    · exact ⟨nofun, nofun⟩
    · split
      · exact .taken _
      · cases first <;> exact .ok _
  have edited (id : Text) (edit : Rule → Rule) : Executed (editIn rules id edit).1 := by
    unfold editIn
    split <;> exact ⟨nofun, nofun⟩
  cases operation with
  | insert r first => exact added [r] first
  | insertAll new first => exact added new first
  | update r => exact edited _ _
  | setEnabled id value => exact edited _ _
  | _ => exact .ok _

/-! ## All operations -/

theorem medium_of_initialized (initialized : (prepare.run s).1 = .ok ())
    (unconnected : s.connected = false) : s.medium = .database := by
  unfold prepare connect at initialized
  cases medium : s.medium with
  | database => rfl
  | _ => simp [run_bind, run_get, run_set, run_throw, unconnected, medium] at initialized

/-- An initialized store where nothing was kept keeps the empty list. -/
theorem keeps_nil (initialized : (prepare.run (emptyAt capacity files path)).1 = .ok ()) :
    Keeps (prepare.run (emptyAt capacity files path)).2 [] := by
  have medium := medium_of_initialized initialized rfl
  rw [run_prepare medium]
  exact ⟨[], ⟨⟨⟨[], .refl _, rfl⟩, List.Pairwise.nil, List.nodup_nil, by simp⟩, ⟨medium, rfl⟩, rfl⟩, rfl⟩

/-- A run of operations on an initialized store where nothing was kept gives the answers of the same run
on the empty list, and what is read at the end is that list: all rules, the enabled ones, and the one
with an id. A refused operation changes nothing. The rules and ids are Unicode, and the database
executes every statement. -/
theorem runAll_onStore (capacity : Capacity) (files : Files) (path : Path)
    (initialized : (prepare.run (emptyAt capacity files path)).1 = .ok ()) (operations : List Operation)
    (storable : ∀ operation ∈ operations, operation.Storable)
    {answers expected : List (Except Error Reply)}
    (ran : runAll Operation.onStore operations (prepare.run (emptyAt capacity files path)).2 = (answers, s))
    (meant : runAll Operation.onList operations [] = (expected, rules))
    (executed : ∀ answer ∈ answers, Executed answer) :
    answers = expected ∧ (list.run s).1 = .ok rules ∧
      (enabled.run s).1 = .ok (rules.filter (·.enabled)) ∧
      (∀ id : Text, id.IsUnicode → ((find id).run s).1 = .ok (rules.find? fun r => r.id = id)) ∧
      (rules.map (·.id)).Nodup ∧
      ∀ (operation : Operation) (e : Error), operation.Storable → e ≠ .positionTooLarge →
        (operation.onStore s).1 = .error e → (list.run (operation.onStore s).2).1 = .ok rules := by
  have related := runAll_related
    (fun operation _ _ allowed keeps => onStore_keeps operation keeps allowed)
    operations _ [] storable (keeps_nil initialized) (by rwa [ran])
  rw [ran, meant] at related
  obtain ⟨same, keeps⟩ := related
  refine ⟨same, list_of_keeps keeps, enabled_of_keeps keeps, fun id => find_of_keeps keeps,
    keeps.distinct, ?_⟩
  exact fun operation e storable other refused => list_of_keeps (onStore_refused keeps storable other refused)

/-- Two rules are put first, one with an id that is taken is refused, the first one is disabled, and the
store is opened again. -/
def sampleOperations : List Operation :=
  [.insert (Rule.letterRule 0x61 0x62) true, .insert (Rule.letterRule 0x63 0x64) true,
    .insert (Rule.letterRule 0x61 0x65) false, .setEnabled [0x63] false, .reopen]

theorem runAll_onStore_sample :
    let store := (prepare.run (ofFiles ⟨[]⟩ ⟨[], [[0x61]]⟩)).2
    (runAll Operation.onStore sampleOperations store).1 =
        [.ok .done, .ok .done, .error (.taken [[0x61]]), .ok .done, .ok .done] ∧
      (list.run (runAll Operation.onStore sampleOperations store).2).1 =
        .ok [{ Rule.letterRule 0x63 0x64 with enabled := false }, Rule.letterRule 0x61 0x62] := by
  intro store
  have initialized : (prepare.run (ofFiles ⟨[]⟩ ⟨[], [[0x61]]⟩)).1 = .ok () := by cbv
  have a : ∃ p, Pattern.read [0x61] = .ok p := ⟨_, by cbv⟩
  have c : ∃ p, Pattern.read [0x63] = .ok p := ⟨_, by cbv⟩
  have storable : ∀ operation ∈ sampleOperations, operation.Storable := by
    simp only [sampleOperations, List.forall_mem_cons]
    exact ⟨Rule.storable_letterRule a (by decide) (by decide),
      Rule.storable_letterRule c (by decide) (by decide),
      Rule.storable_letterRule a (by decide) (by decide),
      show Text.IsUnicode [0x63] by decide, trivial, by simp⟩
  have answers : (runAll Operation.onStore sampleOperations store).1 =
      [.ok .done, .ok .done, .error (.taken [[0x61]]), .ok .done, .ok .done] := by cbv
  have executed : ∀ answer ∈ (runAll Operation.onStore sampleOperations store).1, Executed answer := by
    rw [answers]
    simp only [List.forall_mem_cons]
    exact ⟨.ok _, .ok _, .taken _, .ok _, .ok _, by simp⟩
  have meant : runAll Operation.onList sampleOperations [] =
      ([.ok .done, .ok .done, .error (.taken [[0x61]]), .ok .done, .ok .done],
        [{ Rule.letterRule 0x63 0x64 with enabled := false }, Rule.letterRule 0x61 0x62]) := by cbv
  have ran := (Prod.eta (runAll Operation.onStore sampleOperations store)).symm
  exact ⟨answers,
    (runAll_onStore .usual ⟨[]⟩ ⟨[], [[0x61]]⟩ initialized _ storable ran meant executed).2.1⟩

end UrlRules.Store
