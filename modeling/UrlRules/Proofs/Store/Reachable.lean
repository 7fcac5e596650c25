import UrlRules.Proofs.Store.Recording
import UrlRules.Proofs.Store.Refinement

/-!
# Stores that operations lead to

A store is `Reachable` if any operations lead to it from an initialized one where nothing was kept. Operations may
be refused, and a batch that is refused for a string without a UTF-8 form leaves the rows written before. All the
same the rows that the connection sees are filed in each reachable store, and so are the committed ones (`Sound`).
So a reachable store that is closed keeps a list (`Reachable.keeps`).
-/
namespace UrlRules.Store

open Text

/-- The rules of an operation are written. Ids may be any texts. -/
def Operation.Written : Operation → Prop
  | .insert r _ => r.Written
  | .insertAll rules _ => ∀ r ∈ rules, r.Written
  | .update r => r.Written
  | _ => True

/-- The stores that operations lead to. -/
inductive Reachable : Store → Prop
  | start {capacity : Capacity} {files : Files} {path : Path}
      (initialized : (prepare.run (emptyAt capacity files path)).1 = .ok ()) :
      Reachable (prepare.run (emptyAt capacity files path)).2
  | operate {s : Store} {operation : Operation} (reachable : Reachable s) (written : operation.Written) :
      Reachable (operation.onStore s).2

/-- The rows that the connection sees are filed, and so are those that are committed; they are the same ones if
there is no connection. -/
structure Sound (s : Store) : Prop where
  usable : s.Usable
  rows : ∃ entries, Filed s.rows entries
  saved : ∃ entries, Filed s.saved entries
  closed : s.connected = false → s.saved = s.rows

variable {s : Store} {rules : List Rule} {first : Bool} {id : Text} {texts : List Text}

/-! ## Connections -/

theorem Sound.opened (sound : Sound s) : Sound s.opened :=
  ⟨sound.usable.opened, sound.rows, sound.saved, fun unconnected => by cases unconnected⟩

/-- What is rolled back leaves what is committed. -/
theorem Sound.rolledBack (sound : Sound s) : Sound { s.opened with rows := s.saved } :=
  ⟨⟨sound.usable.medium, sound.usable.hasTable⟩, sound.saved, sound.saved, fun _ => rfl⟩

theorem prepare_sound (sound : Sound s) : Sound (prepare.run s).2 := by
  rw [run_prepare sound.usable.medium]
  exact ⟨⟨sound.usable.medium, rfl⟩, sound.rows, sound.saved, fun unconnected => by cases unconnected⟩

theorem close_sound (sound : Sound s) : Sound (close.run s).2 :=
  ⟨⟨sound.usable.medium, sound.usable.hasTable⟩, sound.saved, sound.saved, fun _ => rfl⟩

/-- Everything that is seen has been committed. -/
theorem sound_of_committed {rows : List Row} (usable : s.Usable) (filed : ∃ entries, Filed rows entries) :
    Sound { s.opened with rows, saved := rows } :=
  ⟨⟨usable.medium, usable.hasTable⟩, filed, filed, fun _ => rfl⟩

theorem Sound.keeps (sound : Sound s) (committed : s.saved = s.rows) : ∃ rules, Keeps s rules := by
  obtain ⟨entries, filed⟩ := sound.rows
  exact ⟨_, entries, ⟨filed, sound.usable, committed⟩, rfl⟩

/-! ## Adding rows -/

/-- The row of a written rule is that of one that is kept. -/
theorem exists_entry {r : Rule} (written : r.Written) (named : isScalar r.id = true)
    (encodable : Row.unencodable? (Row.textsOf r) = none) (position : Int) :
    ∃ e : Entry, e.position = position ∧ e.rule.id = r.id ∧ e.rule.Kept ∧
      Row.ofRule r (.integer position) = e.row := by
  have recorded := Rule.recorded_joined named encodable written
  refine ⟨⟨position, r.joined.unsourced⟩, rfl, rfl, recorded.kept_unsourced, ?_⟩
  rw [Row.ofRule, ← Rule.withRule_joined]
  rfl

/-- What a row is told apart by. -/
def Entry.key (e : Entry) : Int × Text := (e.position, e.rule.id)

/-- Adding rows adds those of the first so many rules, each on its position. -/
theorem run_addRows_written (start : Int) (pairs : List (Nat × Rule))
    (each : ∀ pair ∈ pairs, pair.2.Written ∧ isScalar pair.2.id = true) (s : Store) :
    ∃ result added, (addRows (.integer start) pairs).run s =
        (result, { s with rows := s.rows ++ (added : List Entry).map Entry.row }) ∧
      added.map Entry.key <+: pairs.map (fun pair => (start + pair.1, pair.2.id)) ∧
      ∀ e ∈ added, e.rule.Kept := by
  induction pairs generalizing s with
  | nil => exact ⟨.ok (), [], by rw [List.map_nil, List.append_nil]; rfl, List.prefix_refl _, by simp⟩
  | cons pair pairs ih =>
    obtain ⟨offset, r⟩ := pair
    obtain ⟨⟨written, named⟩, others⟩ := List.forall_mem_cons.mp each
    rw [addRows]
    by_cases large : isTooLarge (.integer (start + offset)) = true
    · refine ⟨.error .positionTooLarge, [], ?_, List.nil_prefix, by simp⟩
      simp [Cell.shifted?, large, run_throw]
    · cases encodable : Row.unencodable? (Row.textsOf r) with
      | some text =>
        refine ⟨.error (.unencodable text), [], ?_, List.nil_prefix, by simp⟩
        simp [Cell.shifted?, large, run_throw]
      | none =>
        obtain ⟨e, position, sameId, kept, row⟩ := exists_entry written named encodable (start + offset)
        obtain ⟨result, added, ran, placed, keptOthers⟩ :=
          ih others { s with rows := s.rows ++ [e.row] }
        refine ⟨result, e :: added, ?_, ?_, List.forall_mem_cons.mpr ⟨kept, keptOthers⟩⟩
        · simp [Cell.shifted?, large, run_bind, run_modify, row, ran]
        · rw [List.map_cons, List.map_cons, Entry.key, position, sameId]
          exact List.prefix_cons_inj _ |>.mpr placed

/-- New entries on the first so many of the positions for new rules are filed with the old ones. -/
theorem Filed.added {rows : List Row} {entries added : List Entry} (filed : Filed rows entries) {start : Int}
    (found : startFor rows rules.length first = some (.integer start))
    (first' : added.map Entry.key <+: (placed start rules).map Entry.key)
    (distinct : (rules.map (·.id)).Nodup) (free : takenIds rows (rules.map (·.id)) = [])
    (kept : ∀ e ∈ added, e.rule.Kept) : ∃ all, Filed (rows ++ added.map Entry.row) all := by
  obtain ⟨start', found', sorted⟩ := exists_start filed rules.length first
  obtain rfl : start' = start := by simpa [found'] using found
  have positions : added.map (·.position) <+: (placed start' rules).map (·.position) := by
    simpa [Entry.key, Function.comp_def] using first'.map Prod.fst
  have ids : added.map (·.rule.id) <+: rules.map (·.id) := by
    rw [← ids_placed start']
    simpa [Entry.key, Function.comp_def] using first'.map Prod.snd
  have rising : Rising added :=
    List.pairwise_map.mp ((List.pairwise_map.mpr (rising_placed start' rules)).sublist positions.sublist)
  refine ⟨_, filed.append (sorted added rising fun e member => ?_) (distinct.sublist ids.sublist) ?_ kept⟩
  · obtain ⟨f, inside, same⟩ := List.mem_map.mp (positions.subset (List.mem_map_of_mem member))
    exact same ▸ position_of_mem_placed inside
  · intro e member old
    have inside : e.rule.id ∈ rules.map (·.id) := ids.subset (List.mem_map_of_mem member)
    rw [takenIds_eq filed] at free
    obtain ⟨r, given, same⟩ := List.mem_map.mp inside
    refine taken_ne_nil_iff.mpr ⟨r, given, ?_⟩ free
    rw [same, List.map_map]
    exact old

/-! ## Operations -/

theorem insertAll_sound (sound : Sound s) (written : ∀ r ∈ rules, r.Written) :
    Sound ((insertAll rules first).run s).2 := by
  by_cases given : rules = []
  · subst given
    exact sound
  obtain ⟨e, refused, -⟩ | ⟨-, -, refused⟩ | ⟨start, distinct, encodable, free, found, ran⟩ :=
    insertAll_cases sound.usable given first
  · rw [refused]
    exact sound.opened
  · rw [refused]
    exact sound.rolledBack
  · obtain ⟨entries, filed⟩ := sound.rows
    obtain ⟨position, found', -⟩ := exists_start filed rules.length first
    obtain rfl : start = .integer position := Option.some.inj (found.symm.trans found')
    have each : ∀ pair ∈ (List.range rules.length).zip rules, pair.2.Written ∧ isScalar pair.2.id = true := by
      intro pair member
      have inside := (List.of_mem_zip member).2
      refine ⟨written _ inside, ?_⟩
      simpa using List.find?_eq_none.mp encodable _ (List.mem_map_of_mem inside)
    obtain ⟨result, added, adds, placed', kept⟩ := run_addRows_written position _ each s.opened
    have filed' := filed.added found (by simpa [placed, Function.comp_def, Entry.key, Rule.unsourced] using placed')
      distinct free kept
    rw [ran, adds]
    cases result with
    | ok _ => exact sound_of_committed sound.usable.opened filed'
    | error e =>
      -- The rows that were written before the refusal are seen, but not committed.
      exact ⟨⟨sound.usable.medium, sound.usable.hasTable⟩, filed', sound.saved, fun unconnected => by
        cases unconnected⟩

/-- Changing rows in place, if the strings for it have a UTF-8 form. -/
theorem change_sound (sound : Sound s) (attempt : Attempt) {editRow : Row → Row}
    (edited : Row.unencodable? (texts ++ [id]) = none → ∃ edit : Rule → Rule,
      (∀ e : Entry, e.rule.id = id → editRow e.row = (e.edit edit).row) ∧
        ∀ r : Rule, r.Kept → r.id = id → (edit r).id = id ∧ (edit r).Kept) :
    Sound ((change attempt id texts editRow).run s).2 := by
  cases encodable : Row.unencodable? (texts ++ [id]) with
  | some text =>
    rw [run_change_unencodable sound.usable attempt id encodable]
    exact sound.opened
  | none =>
    obtain ⟨edit, agrees, right⟩ := edited encodable
    obtain ⟨entries, filed⟩ := sound.rows
    rw [run_change sound.usable attempt id encodable]
    exact sound_of_committed sound.usable ⟨_, filed.change editRow edit agrees right⟩

/-- Giving a row the cells of a written rule makes it the row of one that is kept. -/
theorem withRule_of_written {r : Rule} (written : r.Written)
    (encodable : Row.unencodable? (Row.textsOf r ++ [r.id]) = none) :
    r.joined.unsourced.Kept ∧
      ∀ e : Entry, e.rule.id = r.id → e.row.withRule r = (e.edit fun _ => r.joined.unsourced).row := by
  have each : ∀ t ∈ Row.textsOf r ++ [r.id], isScalar t = true := by
    simpa using List.find?_eq_none.mp encodable
  have own : Row.unencodable? (Row.textsOf r) = none := by
    refine List.find?_eq_none.mpr fun t member => ?_
    simpa using each t (List.mem_append_left _ member)
  refine ⟨(Rule.recorded_joined (each r.id (by simp)) own written).kept_unsourced, fun e named => ?_⟩
  rw [← Rule.withRule_joined]
  exact withRule_row named

theorem update_sound {r : Rule} (sound : Sound s) (written : r.Written) : Sound ((update r).run s).2 := by
  refine change_sound sound _ fun encodable => ?_
  obtain ⟨kept, agrees⟩ := withRule_of_written written encodable
  exact ⟨fun _ => r.joined.unsourced, agrees, fun _ _ _ => ⟨rfl, kept⟩⟩

theorem delete_sound (sound : Sound s) (id : Text) : Sound ((delete id).run s).2 := by
  by_cases scalar : isScalar id = true
  · obtain ⟨entries, filed⟩ := sound.rows
    rw [run_delete sound.usable scalar]
    exact sound_of_committed sound.usable ⟨_, filed.filter id⟩
  · rw [run_delete_unencodable sound.usable (by simpa using scalar)]
    exact sound.opened

/-- One operation, refused or not. -/
theorem onStore_sound {operation : Operation} (sound : Sound s) (written : operation.Written) :
    Sound (operation.onStore s).2 := by
  cases operation with
  | insert r first =>
    simp only [Operation.onStore, Operation.perform, run_done]
    exact insertAll_sound sound (by simpa [Operation.Written] using written)
  | insertAll rules first =>
    simp only [Operation.onStore, Operation.perform, run_done]
    exact insertAll_sound sound written
  | update r =>
    simp only [Operation.onStore, Operation.perform, run_done]
    exact update_sound sound written
  | setEnabled id value =>
    simp only [Operation.onStore, Operation.perform, run_done]
    refine change_sound sound _ fun _ => ⟨fun r => { r with enabled := value }, fun _ _ => rfl, ?_⟩
    exact fun _ kept named => ⟨named, kept.withEnabled value⟩
  | delete id =>
    simp only [Operation.onStore, Operation.perform, run_bind]
    have deleted := delete_sound sound id
    rcases ran : (delete id).run s with ⟨answer, s'⟩
    rw [ran] at deleted
    cases answer <;> exact deleted
  | prepare =>
    simp only [Operation.onStore, Operation.perform, run_done]
    exact prepare_sound sound
  | close =>
    simp only [Operation.onStore, Operation.perform, run_done]
    exact close_sound sound
  | reopen =>
    simp only [Operation.onStore, Operation.perform, run_done, run_reopen]
    exact prepare_sound (close_sound sound)

theorem Reachable.prepared (reachable : Reachable s) : Reachable (prepare.run s).2 := by
  have step : Reachable (Operation.prepare.onStore s).2 := .operate reachable trivial
  rwa [Operation.onStore, Operation.perform, run_done] at step

theorem Reachable.closed (reachable : Reachable s) : Reachable (close.run s).2 := by
  have step : Reachable (Operation.close.onStore s).2 := .operate reachable trivial
  rwa [Operation.onStore, Operation.perform, run_done] at step

theorem Reachable.runAll (reachable : Reachable s) {operations : List Operation}
    (written : ∀ operation ∈ operations, operation.Written) :
    Reachable (runAll Operation.onStore operations s).2 := by
  induction operations generalizing s with
  | nil => exact reachable
  | cons operation operations ih =>
    obtain ⟨own, others⟩ := List.forall_mem_cons.mp written
    exact ih (.operate reachable own) others

/-- In every reachable store the rows are filed. -/
theorem Reachable.sound (reachable : Reachable s) : Sound s := by
  induction reachable with
  | start initialized =>
    obtain ⟨entries, represents, -⟩ := keeps_nil initialized
    exact ⟨represents.usable, ⟨entries, represents.toFiled⟩, ⟨entries, represents.saved ▸ represents.toFiled⟩,
      fun _ => represents.saved⟩
  | operate _ written ih => exact onStore_sound ih written

/-- A reachable store that is closed keeps a list. -/
theorem Reachable.keeps (reachable : Reachable s) (closed : s.connected = false) : ∃ rules, Keeps s rules :=
  reachable.sound.keeps (reachable.sound.closed closed)

end UrlRules.Store
