import UrlRules.Proofs.Store.Refinement
import UrlRules.Proofs.Store.Transaction

/-!
# How far positions reach

Rows stand on distinct positions between bounds (`Spread`). New rules are put on consecutive positions just beyond the
others (`Borders`), and if the last of them are refused, the first ones stand there all the same (`exists_inserts`). So
the rules that have been put at either end bound the positions there (`tally`), whatever is changed, deleted or lost
with the connection in between (`onStore_ranged`). Whatever operations lead to a store, the order of its list is never
in doubt, and no position is refused before 2^63 rules have been put at one end (`positions_of_runAll`). So the
database executes every run with fewer rules, if it takes each batch in one statement (`runAll_executed`).
-/
namespace UrlRules.Store

open Text

variable {s : Store} {rows : List Row} {positions : List Int} {start : Int} {rules : List Rule} {first : Bool}
  {count : Nat} {position : Int} {bounds : Bounds}

/-! ## Rows between bounds -/

/-- Rows stand on integers. -/
def Stand (rows : List Row) (positions : List Int) : Prop := rows.map (·.position) = positions.map .integer

/-- How many positions are taken below zero, and how many from zero on. -/
structure Bounds where
  below : Nat
  above : Nat

def Bounds.Holds (bounds : Bounds) (position : Int) : Prop :=
  -(bounds.below : Int) ≤ position ∧ position < bounds.above

/-- Bounds with more positions on one side. -/
def Bounds.widened (bounds : Bounds) (first : Bool) (count : Nat) : Bounds :=
  if first then { bounds with below := bounds.below + count } else { bounds with above := bounds.above + count }

theorem Bounds.Holds.widened (holds : bounds.Holds position) (first : Bool) (count : Nat) :
    (bounds.widened first count).Holds position := by
  unfold Bounds.Holds at *
  cases first <;> simp only [Bounds.widened, if_true, Bool.false_eq_true, if_false] <;> omega

/-- Rows stand on distinct positions between bounds. -/
def Spread (bounds : Bounds) (rows : List Row) : Prop :=
  ∃ positions, Stand rows positions ∧ positions.Nodup ∧ ∀ p ∈ positions, bounds.Holds p

theorem spread_nil (bounds : Bounds) : Spread bounds [] := ⟨[], rfl, List.nodup_nil, by simp⟩

theorem Spread.widened (spread : Spread bounds rows) (first : Bool) (count : Nat) :
    Spread (bounds.widened first count) rows := by
  obtain ⟨positions, stand, distinct, within⟩ := spread
  exact ⟨positions, stand, distinct, fun p member => (within p member).widened first count⟩

/-- Changing rows in place leaves them where they stand. -/
theorem Spread.map (spread : Spread bounds rows) {edit : Row → Row}
    (kept : ∀ row, (edit row).position = row.position) : Spread bounds (rows.map edit) := by
  obtain ⟨positions, stand, distinct, within⟩ := spread
  refine ⟨positions, ?_, distinct, within⟩
  rw [Stand, List.map_map, ← stand]
  exact List.map_congr_left fun row _ => kept row

theorem Spread.filter (spread : Spread bounds rows) (keeps : Row → Bool) : Spread bounds (rows.filter keeps) := by
  obtain ⟨positions, stand, distinct, within⟩ := spread
  have left : ((rows.filter keeps).map (·.position)).Sublist (positions.map .integer) :=
    stand ▸ List.filter_sublist.map _
  obtain ⟨others, sublist, same⟩ := List.sublist_map_iff.mp left
  exact ⟨others, same, distinct.sublist sublist, fun p member => within p (sublist.subset member)⟩

/-! ## New rows -/

/-- So many positions from `start` on lie below all others, or above them. They are next to the others, or to zero if
there are none. -/
def Borders (positions : List Int) (start : Int) (count : Nat) (first : Bool) : Prop :=
  if first then (∀ p ∈ positions, start + count ≤ p) ∧ (start + count = 0 ∨ start + count ∈ positions)
  else (∀ p ∈ positions, p < start) ∧ (start = 0 ∨ start - 1 ∈ positions)

theorem startFor_of_stand (stand : Stand rows positions) (count : Nat) (first : Bool) :
    ∃ start, startFor rows count first = some (.integer start) ∧ Borders positions start count first := by
  -- Only the positions matter, so any rules will do.
  let entries : List Entry := positions.map fun p => ⟨p, default⟩
  have same : startFor rows count first = startFor (entries.map Entry.row) count first := by
    have positions' : (entries.map Entry.row).map (·.position) = rows.map (·.position) := by
      rw [positions_rows, stand, List.map_map]
      exact List.map_map.trans rfl
    unfold startFor
    rw [positions']
  have among {p : Int} : (∃ e ∈ entries, e.position = p) ↔ p ∈ positions := by simp [entries]
  rw [same]
  cases first with
  | true =>
    obtain ⟨low, found, lowest, known⟩ := startFor_first entries count
    refine ⟨low - count, found, fun p member => ?_, ?_⟩
    · obtain ⟨e, inside, rfl⟩ := among.mpr member
      have := lowest e inside
      omega
    · rw [Int.sub_add_cancel, ← among]
      exact known
  | false =>
    obtain ⟨high, found, highest, known⟩ := startFor_last entries count
    refine ⟨high + 1, found, fun p member => ?_, ?_⟩
    · obtain ⟨e, inside, rfl⟩ := among.mpr member
      have := highest e inside
      omega
    · rw [Int.add_sub_cancel, ← among]
      refine known.imp (fun none => ?_) id
      omega

theorem rowsFrom_cons (start : Int) (pair : Nat × Rule) (pairs : List (Nat × Rule)) :
    rowsFrom (.integer start) (pair :: pairs) =
      Row.ofRule pair.2 (.integer (start + pair.1)) :: rowsFrom (.integer start) pairs := rfl

theorem stand_rowsFrom (start : Int) (pairs : List (Nat × Rule)) :
    Stand (rowsFrom (.integer start) pairs) (pairs.map fun pair => start + pair.1) := by
  induction pairs with
  | nil => rfl
  | cons pair pairs ih =>
    rw [Stand] at ih ⊢
    rw [rowsFrom_cons, List.map_cons, List.map_cons, List.map_cons, ih]
    rfl

/-- The first rows of a batch stand on the first of its positions. -/
theorem stand_newRows (start : Int) (within : count ≤ rules.length) :
    Stand (newRows rules (.integer start) count) ((List.range count).map fun offset : Nat => start + offset) := by
  have firsts : (((List.range rules.length).zip rules).take count).map Prod.fst = List.range count := by
    rw [List.map_take, List.map_fst_zip (by simp), List.take_range, Nat.min_eq_left within]
  have offsets : (((List.range rules.length).zip rules).take count).map (fun pair => start + (pair.1 : Int)) =
      (List.range count).map fun offset : Nat => start + offset := by
    rw [← firsts, List.map_map]
    rfl
  rw [← offsets]
  exact stand_rowsFrom start _

/-- Rows are added up to the first one that is refused. -/
theorem run_addRows_take (start : Int) (pairs : List (Nat × Rule)) (s : Store) :
    ∃ count ≤ pairs.length, ∃ result, (addRows (.integer start) pairs).run s =
        (result, { s with rows := s.rows ++ rowsFrom (.integer start) (pairs.take count) }) ∧
      (result = .ok () → count = pairs.length) ∧
      (result = .error .positionTooLarge → ∃ pair ∈ pairs, Cell.fits (start + pair.1) = false) := by
  induction pairs generalizing s with
  | nil =>
    refine ⟨0, Nat.le_refl 0, .ok (), ?_, fun _ => rfl, fun failed => ?_⟩
    · simp [addRows, rowsFrom, run_pure]
    · cases failed
  | cons pair pairs ih =>
    obtain ⟨offset, r⟩ := pair
    rw [addRows]
    cases fits : Cell.fits (start + offset) with
    | false =>
      refine ⟨0, Nat.zero_le _, .error .positionTooLarge, ?_, fun done => ?_, fun _ => ⟨_, List.mem_cons_self .., fits⟩⟩
      · simp [Cell.shifted?, isTooLarge, fits, run_throw, rowsFrom]
      · cases done
    | true =>
      cases encodable : Row.unencodable? (Row.textsOf r) with
      | some text =>
        refine ⟨0, Nat.zero_le _, .error (.unencodable text), ?_, fun done => ?_, fun failed => ?_⟩
        · simp [Cell.shifted?, isTooLarge, fits, run_throw, rowsFrom]
        · cases done
        · cases failed
      | none =>
        obtain ⟨count, within, result, ran, all, large⟩ :=
          ih { s with rows := s.rows ++ [Row.ofRule r (.integer (start + offset))] }
        refine ⟨count + 1, by simpa using within, result, ?_, fun done => ?_, fun failed => ?_⟩
        · simp [Cell.shifted?, isTooLarge, fits, run_bind, run_modify, ran, rowsFrom_cons]
        · rw [all done, List.length_cons]
        · obtain ⟨pair, member, beyond⟩ := large failed
          exact ⟨pair, List.mem_cons_of_mem _ member, beyond⟩

/-- An insertion has put rows of the first so many rules on consecutive positions beyond all others, and those of all
rules if it has succeeded. It has committed everything that is seen, or nothing. One that has more ids than a statement
may have parameters leaves what was committed. -/
structure Inserts (s : Store) (positions : List Int) (rules : List Rule) (first : Bool) (start : Int) (count : Nat)
    (ran : Except Error Unit × Store) : Prop where
  within : count ≤ rules.length
  borders : Borders positions start rules.length first
  all : ran.1 = .ok () → count = rules.length
  large : ran.1 = .error .positionTooLarge → ∃ offset < rules.length, Cell.fits (start + offset) = false
  rows : ran.2.rows = s.rows ++ newRows rules (.integer start) count ∨
    ran.1 = .error (.failed .insert .tooManyParameters) ∧ count = 0 ∧ ran.2.rows = s.saved
  consecutive : Stand (newRows rules (.integer start) count) ((List.range count).map fun offset : Nat => start + offset)
  saved : ran.2.saved = s.saved ∨ ran.2.saved = ran.2.rows
  usable : ran.2.Usable

theorem exists_inserts (usable : s.Usable) (stand : Stand s.rows positions) (rules : List Rule) (first : Bool) :
    ∃ start count, Inserts s positions rules first start count ((insertAll rules first).run s) := by
  obtain ⟨start, found, borders⟩ := startFor_of_stand stand rules.length first
  have same : s.rows = s.rows ++ newRows rules (.integer start) 0 := (List.append_nil _).symm
  by_cases given : rules = []
  · subst given
    exact ⟨start, 0, Nat.le_refl 0, borders, fun _ => rfl, nofun, .inl same, rfl, .inl rfl, usable⟩
  obtain ⟨e, refused, other⟩ | ⟨-, -, refused⟩ | ⟨start', -, -, -, found', ran⟩ := insertAll_cases usable given first
  · rw [refused]
    refine ⟨start, 0, Nat.zero_le _, borders, nofun, fun large => ?_, .inl same, rfl, .inl rfl, usable.opened⟩
    exact absurd large other.position
  · rw [refused]
    exact ⟨start, 0, Nat.zero_le _, borders, nofun, nofun, .inr ⟨rfl, rfl, rfl⟩, rfl, .inl rfl,
      usable.medium, usable.hasTable⟩
  · obtain rfl : start' = .integer start := Option.some.inj (found'.symm.trans found)
    obtain ⟨count, within, result, added, all, large⟩ :=
      run_addRows_take start ((List.range rules.length).zip rules) s.opened
    have few : count ≤ rules.length := by simpa using within
    have new := stand_newRows start few
    rw [ran, added]
    cases result with
    | ok _ =>
      refine ⟨start, count, few, borders, fun _ => ?_, nofun, .inl rfl, new, .inr rfl, usable.medium,
        usable.hasTable⟩
      simpa using all rfl
    | error e =>
      refine ⟨start, count, few, borders, nofun, fun failed => ?_, .inl rfl, new, .inl rfl, usable.medium,
        usable.hasTable⟩
      obtain ⟨pair, member, beyond⟩ := large failed
      exact ⟨pair.1, List.mem_range.mp (List.of_mem_zip member).1, beyond⟩

/-- Positions that border on others are new, and they are in a row with them. -/
theorem Borders.nodup (borders : Borders positions start rules.length first) (distinct : positions.Nodup)
    (within : count ≤ rules.length) :
    (positions ++ (List.range count).map fun offset : Nat => start + (offset : Int)).Nodup := by
  refine List.nodup_append.mpr ⟨distinct, ?_, ?_⟩
  · exact List.nodup_range.map fun a b same => by omega
  · rintro p old q new rfl
    obtain ⟨offset, inside, same⟩ := List.mem_map.mp new
    have small := List.mem_range.mp inside
    cases first with
    | true =>
      have := borders.1 p old
      omega
    | false =>
      have := borders.1 p old
      omega

/-- Positions that border on others between bounds are between wider ones. -/
theorem Borders.holds (borders : Borders positions start rules.length first)
    (inside : ∀ p ∈ positions, bounds.Holds p) {offset : Nat} (small : offset < rules.length) :
    (bounds.widened first rules.length).Holds (start + offset) := by
  unfold Bounds.Holds at *
  cases first with
  | true =>
    simp only [Bounds.widened, if_true]
    rcases borders.2 with zero | next
    · omega
    · have := inside _ next
      omega
  | false =>
    simp only [Bounds.widened, Bool.false_eq_true, if_false]
    rcases borders.2 with zero | next
    · omega
    · have := inside _ next
      omega

theorem fits_of_holds (holds : bounds.Holds position) (below : bounds.below ≤ 2 ^ 63) (above : bounds.above ≤ 2 ^ 63) :
    Cell.fits position = true := by
  obtain ⟨lower, upper⟩ := holds
  simp only [Cell.fits, Bool.and_eq_true, decide_eq_true_eq]
  rw [Cell.minInteger, Cell.maxInteger]
  omega

/-- A position is refused only after 2^63 rules have been put at one end. -/
theorem Inserts.beyond {ran : Except Error Unit × Store} (inserts : Inserts s positions rules first start count ran)
    (inside : ∀ p ∈ positions, bounds.Holds p) (refused : ran.1 = .error .positionTooLarge) :
    2 ^ 63 < (bounds.widened first rules.length).below ∨ 2 ^ 63 < (bounds.widened first rules.length).above := by
  obtain ⟨offset, small, large⟩ := inserts.large refused
  by_contra few
  obtain ⟨below, above⟩ := not_or.mp few
  have fits := fits_of_holds (inserts.borders.holds inside small) (Nat.le_of_not_lt below) (Nat.le_of_not_lt above)
  rw [fits] at large
  cases large

/-! ## Operations -/

/-- The rules that an operation is to insert, and whether before the others. -/
def Operation.batch : Operation → List Rule × Bool
  | .insert r first => ([r], first)
  | .insertAll rules first => (rules, first)
  | _ => ([], true)

/-- How many rules an operation puts in the list: all of its batch, unless no row is written. A batch that stops on
the way counts as a whole, since its first rows stand as if the others followed. -/
def Operation.puts (operation : Operation) (s : Store) : Nat :=
  if s.rows.length < (operation.onStore s).2.rows.length then operation.batch.1.length else 0

/-- How far the rules reach that operations put before the others and after them. -/
def tally : List Operation → Store → Bounds → Bounds
  | [], _, bounds => bounds
  | operation :: operations, s, bounds =>
      tally operations (operation.onStore s).2 (bounds.widened operation.batch.2 (operation.puts s))

/-- What is seen stands between bounds, and so does what is committed. -/
structure Ranged (bounds : Bounds) (s : Store) : Prop where
  usable : s.Usable
  rows : Spread bounds s.rows
  saved : Spread bounds s.saved

theorem Ranged.opened (ranged : Ranged bounds s) : Ranged bounds s.opened :=
  ⟨ranged.usable.opened, ranged.rows, ranged.saved⟩

theorem Ranged.widened (ranged : Ranged bounds s) (first : Bool) (count : Nat) :
    Ranged (bounds.widened first count) s :=
  ⟨ranged.usable, ranged.rows.widened first count, ranged.saved.widened first count⟩

theorem ranged_committed (usable : s.Usable) (spread : Spread bounds rows) :
    Ranged bounds { s.opened with rows, saved := rows } :=
  ⟨⟨usable.medium, usable.hasTable⟩, spread, spread⟩

theorem onStore_insertAll (rules : List Rule) (first : Bool) (s : Store) :
    ((Operation.insertAll rules first).onStore s).2 = ((insertAll rules first).run s).2 := by
  simp only [Operation.onStore, Operation.perform, run_done]

theorem insertAll_ranged (ranged : Ranged bounds s) (rules : List Rule) (first : Bool) :
    Ranged (bounds.widened first ((Operation.insertAll rules first).puts s)) ((insertAll rules first).run s).2 := by
  obtain ⟨positions, stand, distinct, inside⟩ := ranged.rows
  obtain ⟨start, count, inserts⟩ := exists_inserts ranged.usable stand rules first
  have spread : Spread (bounds.widened first ((Operation.insertAll rules first).puts s))
      ((insertAll rules first).run s).2.rows := by
    rcases inserts.rows with rows | ⟨-, -, lost⟩
    · have length : (newRows rules (.integer start) count).length = count := by
        simpa using congrArg List.length inserts.consecutive
      have puts : (Operation.insertAll rules first).puts s = if 0 < count then rules.length else 0 := by
        simp [Operation.puts, onStore_insertAll, rows, length, Operation.batch]
      refine ⟨positions ++ (List.range count).map fun offset : Nat => start + (offset : Int), ?_,
        inserts.borders.nodup distinct inserts.within, ?_⟩
      · rw [Stand, rows, List.map_append, List.map_append, stand, inserts.consecutive]
      · intro p member
        rcases List.mem_append.mp member with old | added
        · exact (inside p old).widened first _
        · obtain ⟨offset, small, rfl⟩ := List.mem_map.mp added
          have small := List.mem_range.mp small
          rw [puts, if_pos (by omega)]
          exact inserts.borders.holds inside (Nat.lt_of_lt_of_le small inserts.within)
    · rw [lost]
      exact ranged.saved.widened first _
  refine ⟨inserts.usable, spread, ?_⟩
  rcases inserts.saved with before | after
  · rw [before]
    exact ranged.saved.widened first _
  · rw [after]
    exact spread

theorem change_ranged (ranged : Ranged bounds s) (attempt : Attempt) (id : Text) (texts : List Text)
    (edit : Row → Row) (kept : ∀ row, (edit row).position = row.position) :
    Ranged bounds ((change attempt id texts edit).run s).2 := by
  cases encodable : Row.unencodable? (texts ++ [id]) with
  | some text =>
    rw [run_change_unencodable ranged.usable attempt id encodable]
    exact ranged.opened
  | none =>
    rw [run_change ranged.usable attempt id encodable]
    refine ranged_committed ranged.usable (ranged.rows.map fun row => ?_)
    split
    · exact kept row
    · rfl

theorem delete_ranged (ranged : Ranged bounds s) (id : Text) : Ranged bounds ((delete id).run s).2 := by
  cases scalar : isScalar id with
  | false =>
    rw [run_delete_unencodable ranged.usable scalar]
    exact ranged.opened
  | true =>
    rw [run_delete ranged.usable scalar]
    exact ranged_committed ranged.usable (ranged.rows.filter _)

theorem prepare_ranged (ranged : Ranged bounds s) : Ranged bounds (prepare.run s).2 := by
  rw [run_prepare ranged.usable.medium]
  exact ⟨⟨ranged.usable.medium, rfl⟩, ranged.rows, ranged.saved⟩

/-- A store where nothing was kept. -/
theorem ranged_prepared {capacity : Capacity} {files : Files} {path : Path}
    (initialized : (prepare.run (emptyAt capacity files path)).1 = .ok ()) :
    Ranged ⟨0, 0⟩ (prepare.run (emptyAt capacity files path)).2 := by
  have medium := medium_of_initialized initialized rfl
  refine ⟨usable_prepared medium, ?_, ?_⟩ <;> rw [run_prepare medium] <;> exact spread_nil _

theorem close_ranged (ranged : Ranged bounds s) : Ranged bounds (close.run s).2 :=
  ⟨⟨ranged.usable.medium, ranged.usable.hasTable⟩, ranged.saved, ranged.saved⟩

/-- One operation widens the bounds by the rules that it puts in the list. -/
theorem onStore_ranged (ranged : Ranged bounds s) (operation : Operation) :
    Ranged (bounds.widened operation.batch.2 (operation.puts s)) (operation.onStore s).2 := by
  cases operation with
  | insert r first =>
    rw [Operation.onStore, Operation.perform, run_done]
    exact insertAll_ranged ranged [r] first
  | insertAll rules first =>
    rw [onStore_insertAll]
    exact insertAll_ranged ranged rules first
  | update r =>
    rw [Operation.onStore, Operation.perform, run_done]
    exact (change_ranged ranged _ _ _ (·.withRule r) fun _ => rfl).widened _ _
  | setEnabled id value =>
    rw [Operation.onStore, Operation.perform, run_done]
    exact (change_ranged ranged _ _ _
      (fun row => { row with enabled := .integer (if value then 1 else 0) }) fun _ => rfl).widened _ _
  | delete id =>
    have deleted := delete_ranged ranged id
    simp only [Operation.onStore, Operation.perform, run_bind]
    refine Ranged.widened ?_ _ _
    rcases ran : (delete id).run s with ⟨answer, s'⟩
    rw [ran] at deleted
    cases answer <;> exact deleted
  | prepare =>
    rw [Operation.onStore, Operation.perform, run_done]
    exact (prepare_ranged ranged).widened _ _
  | close =>
    rw [Operation.onStore, Operation.perform, run_done]
    exact (close_ranged ranged).widened _ _
  | reopen =>
    rw [Operation.onStore, Operation.perform, run_done, run_reopen]
    exact (prepare_ranged (close_ranged ranged)).widened _ _

/-- A run widens the bounds by all rules that are put in the list on the way. -/
theorem runAll_ranged (ranged : Ranged bounds s) (operations : List Operation) :
    Ranged (tally operations s bounds) (runAll Operation.onStore operations s).2 := by
  induction operations generalizing s bounds with
  | nil => exact ranged
  | cons operation operations ih => exact ih (onStore_ranged ranged operation)

/-! ## Runs that are executed -/

/-- No position is refused while there is room for all rules on either side of zero. -/
theorem insertAll_placed (ranged : Ranged bounds s) (room : bounds.below + bounds.above + rules.length ≤ 2 ^ 63) :
    ((insertAll rules first).run s).1 ≠ .error .positionTooLarge := by
  intro refused
  obtain ⟨positions, stand, -, inside⟩ := ranged.rows
  obtain ⟨start, count, inserts⟩ := exists_inserts ranged.usable stand rules first
  have beyond := inserts.beyond inside refused
  cases first <;> simp only [Bounds.widened, if_true, Bool.false_eq_true, if_false] at beyond <;> omega

theorem insertAll_agrees {old new : List Rule} (keeps : Keeps s old) (ranged : Ranged bounds s)
    (storable : ∀ r ∈ new, r.Storable) (few : new.length ≤ s.capacity.value)
    (room : bounds.below + bounds.above + new.length ≤ 2 ^ 63) :
    ((Operation.insertAll new first).onStore s).1 = (Operation.addTo old new first).1 := by
  simp only [Operation.onStore, Operation.perform, run_done]
  exact (insertAll_of_keeps keeps (fun r member => (storable r member).recorded) (fun _ => few)
    (insertAll_placed ranged room)).1

/-- The database executes an operation if it takes its batch in one statement and there is room for it. -/
theorem onStore_executed {operation : Operation} (keeps : Keeps s rules) (ranged : Ranged bounds s)
    (storable : operation.Storable) (few : operation.batch.1.length ≤ s.capacity.value)
    (room : bounds.below + bounds.above + operation.batch.1.length ≤ 2 ^ 63) :
    Executed (operation.onStore s).1 := by
  have agrees : (operation.onStore s).1 = (operation.onList rules).1 := by
    cases operation with
    | insert r first =>
      exact insertAll_agrees keeps ranged (by simpa [Operation.Storable] using storable) few room
    | insertAll new first => exact insertAll_agrees keeps ranged storable few room
    | update r => exact (update_keeps keeps storable).1
    | setEnabled id value => exact (setEnabled_keeps keeps storable).1
    | delete id => exact (delete_keeps keeps storable).1
    | prepare =>
      simp only [Operation.onStore, Operation.perform, run_done, (prepare_of_keeps keeps).1]
      rfl
    | close => rfl
    | reopen => exact (reopen_keeps keeps).1
  rw [agrees]
  exact operation.executed_onList rules

/-- The database executes all operations of a run if it takes every batch in one statement and there is room for all
batches on either side of zero. -/
theorem runAll_executed (keeps : Keeps s rules) (ranged : Ranged bounds s) {operations : List Operation}
    (storable : ∀ operation ∈ operations, operation.Storable)
    (few : ∀ operation ∈ operations, operation.batch.1.length ≤ s.capacity.value)
    (room : bounds.below + bounds.above + (operations.map (·.batch.1.length)).sum ≤ 2 ^ 63) :
    ∀ answer ∈ (runAll Operation.onStore operations s).1, Executed answer := by
  induction operations generalizing s rules bounds with
  | nil => simp [runAll]
  | cons operation operations ih =>
    obtain ⟨own, others⟩ := List.forall_mem_cons.mp storable
    obtain ⟨small, smaller⟩ := List.forall_mem_cons.mp few
    rw [List.map_cons, List.sum_cons] at room
    have executed := onStore_executed keeps ranged own small (by omega)
    have wider : (bounds.widened operation.batch.2 (operation.puts s)).below +
        (bounds.widened operation.batch.2 (operation.puts s)).above =
          bounds.below + bounds.above + operation.puts s := by
      cases operation.batch.2 <;> simp [Bounds.widened] <;> omega
    have puts : operation.puts s ≤ operation.batch.1.length := by
      unfold Operation.puts
      split <;> omega
    refine List.forall_mem_cons.mpr ⟨executed, ?_⟩
    exact ih (onStore_keeps operation keeps own executed).2 (onStore_ranged ranged operation) others
      ((capacity_onStore ranged.usable operation).symm ▸ smaller) (by omega)

/-- Such a run leaves a store that keeps what it makes of the list. -/
theorem runAll_keeps (keeps : Keeps s rules) (ranged : Ranged bounds s) {operations : List Operation}
    (storable : ∀ operation ∈ operations, operation.Storable)
    (few : ∀ operation ∈ operations, operation.batch.1.length ≤ s.capacity.value)
    (room : bounds.below + bounds.above + (operations.map (·.batch.1.length)).sum ≤ 2 ^ 63) :
    Keeps (runAll Operation.onStore operations s).2 (runAll Operation.onList operations rules).2 :=
  (runAll_related (fun operation _ _ allowed keeps => onStore_keeps operation keeps allowed) operations s rules storable
    keeps (runAll_executed keeps ranged storable few room)).2

theorem capacity_runAll (ranged : Ranged bounds s) (operations : List Operation) :
    (runAll Operation.onStore operations s).2.capacity = s.capacity := by
  induction operations generalizing s bounds with
  | nil => rfl
  | cons operation operations ih =>
    exact (ih (onStore_ranged ranged operation)).trans (capacity_onStore ranged.usable operation)

/-! ## Every run -/

/-- Rows are read by rising integers. -/
theorem positions_inOrder (stand : Stand rows positions) : Stand (inOrder rows) (positions.mergeSort (· ≤ ·)) := by
  have asCells : (inOrder rows).map (·.position) =
      (rows.map (·.position)).mergeSort fun a b => !b.before a := List.map_mergeSort fun _ _ _ _ => rfl
  rw [Stand, asCells, stand]
  refine (List.map_mergeSort fun a _ b _ => ?_).symm
  rw [before_integer, ← decide_not]
  exact decide_eq_decide.mpr Int.not_lt.symm

theorem pairwise_before_iff (stand : Stand rows positions) :
    rows.Pairwise (fun a b => a.position.before b.position = true) ↔ positions.Pairwise (· < ·) := by
  rw [← List.pairwise_map (R := fun a b : Cell => a.before b = true), stand, List.pairwise_map]
  simp only [before_integer, decide_eq_true_eq]

/-- Rows on distinct integers have one order, in which they are read. -/
theorem eq_inOrder_iff (stand : Stand rows positions) (distinct : positions.Nodup) {ordered : List Row}
    (perm : ordered.Perm rows) :
    ordered = inOrder rows ↔ ordered.Pairwise fun a b => a.position.before b.position = true := by
  have rising : (inOrder rows).Pairwise fun a b => a.position.before b.position = true := by
    rw [pairwise_before_iff (positions_inOrder stand)]
    have sorted := List.pairwise_mergeSort' (· ≤ ·) positions
    have distinct' := (List.mergeSort_perm positions fun a b => decide (a ≤ b)).nodup_iff.mpr distinct
    exact (sorted.and distinct').imp fun both => Int.lt_iff_le_and_ne.mpr both
  refine ⟨fun same => same ▸ rising, fun pairwise => ?_⟩
  have perm' := perm.trans (List.mergeSort_perm rows fun a b => !b.position.before a.position).symm
  refine perm'.eq_of_pairwise (fun a b member other before after => ?_) pairwise rising
  -- No integer is before one that is before it.
  have among {row : Row} (inside : row ∈ rows) : ∃ p, row.position = .integer p := by
    have cell : row.position ∈ positions.map .integer := stand ▸ List.mem_map_of_mem inside
    obtain ⟨p, -, same⟩ := List.mem_map.mp cell
    exact ⟨p, same.symm⟩
  obtain ⟨p, stands⟩ := among (perm.mem_iff.mp member)
  obtain ⟨q, stands'⟩ := among (perm.mem_iff.mp (perm'.mem_iff.mpr other))
  rw [stands, stands', before_integer, decide_eq_true_eq] at before after
  omega

/-- After any operations, refused or not, on an initialized store where nothing was kept, the rows stand on distinct
integers. None is lower than the number of rules that were put before the others allows, and none is higher than the
number of those put after them does; so they fit a cell while neither number reaches 2^63, and there is one order in
which they are read. An insertion puts rows on consecutive integers beyond all others, at the end that is asked for. -/
theorem positions_of_runAll {capacity : Capacity} {files : Files} {path : Path}
    (initialized : (prepare.run (emptyAt capacity files path)).1 = .ok ()) (operations : List Operation)
    (ran : (runAll Operation.onStore operations (prepare.run (emptyAt capacity files path)).2).2 = s)
    (tallied : tally operations (prepare.run (emptyAt capacity files path)).2 ⟨0, 0⟩ = bounds) :
    ∃ positions, Stand s.rows positions ∧ positions.Nodup ∧
      (∀ p ∈ positions, -(bounds.below : Int) ≤ p ∧ p ≤ bounds.above - 1) ∧
      (bounds.below < 2 ^ 63 → bounds.above < 2 ^ 63 → ∀ p ∈ positions, Cell.fits p = true) ∧
      (∀ ordered : List Row, ordered.Perm s.rows →
        (ordered = inOrder s.rows ↔ ordered.Pairwise fun a b => a.position.before b.position = true)) ∧
      ∀ (rules : List Rule) (first : Bool), ∃ start count,
        Inserts s positions rules first start count ((insertAll rules first).run s) ∧
        (((insertAll rules first).run s).1 = .error .positionTooLarge →
          2 ^ 63 < (bounds.widened first rules.length).below ∨ 2 ^ 63 < (bounds.widened first rules.length).above) := by
  have ranged := runAll_ranged (ranged_prepared initialized) operations
  rw [ran, tallied] at ranged
  obtain ⟨positions, stand, distinct, inside⟩ := ranged.rows
  refine ⟨positions, stand, distinct, fun p member => ?_, fun below above p member => ?_,
    fun ordered perm => eq_inOrder_iff stand distinct perm, fun rules first => ?_⟩
  · obtain ⟨lower, upper⟩ := inside p member
    exact ⟨lower, Int.le_sub_one_of_lt upper⟩
  · exact fits_of_holds (inside p member) below.le above.le
  · obtain ⟨start, count, inserts⟩ := exists_inserts ranged.usable stand rules first
    exact ⟨start, count, inserts, inserts.beyond inside⟩

/-- Two rules have been put first, and a third one was refused. -/
theorem positions_of_runAll_sample :
    let store := (prepare.run (ofFiles ⟨[]⟩ ⟨[], [[0x61]]⟩)).2
    tally sampleOperations store ⟨0, 0⟩ = ⟨2, 0⟩ ∧
      ∃ positions, Stand (runAll Operation.onStore sampleOperations store).2.rows positions ∧ positions.Nodup ∧
        ∀ p ∈ positions, -2 ≤ p ∧ p ≤ -1 := by
  intro store
  have initialized : (prepare.run (ofFiles ⟨[]⟩ ⟨[], [[0x61]]⟩)).1 = .ok () := by cbv
  have tallied : tally sampleOperations store ⟨0, 0⟩ = ⟨2, 0⟩ := by cbv
  obtain ⟨positions, stand, distinct, inside, -⟩ :=
    positions_of_runAll initialized sampleOperations rfl tallied
  exact ⟨tallied, positions, stand, distinct, inside⟩

end UrlRules.Store
