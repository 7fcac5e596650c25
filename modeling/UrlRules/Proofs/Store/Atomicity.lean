import UrlRules.Proofs.Store.Refinement
import UrlRules.Proofs.Store.Transaction

/-!
# What an insertion that fails leaves

An insertion that the database refuses is rolled back, and so nothing of it is left. One that stops for another cause
leaves the rows that were written in an open transaction (`Breaks`, `insertBatch_eq_error_iff`). Operations carry such
rows on (`Operation.carries`), and one that succeeds commits them (`saved_of_runAll`). So a batch is inserted whole or
not at all except where it stops for another cause than the database after the transaction has begun
(`insertBatch_remains`).
-/
namespace UrlRules.Store

open Text

variable {faults : Statement → Option Fault} {rules : List Rule} {first : Bool} {c c' : Connection} {start : Cell}
variable {s s' : Store} {id : Text} {operation : Operation} {operations : List Operation} {count : Nat} {e : Error}

/-! ## What fails -/

/-- The statements stop with a fault. -/
def Stops (faults : Statement → Option Fault) (rules : List Rule) (first : Bool) (c : Connection)
    (fault : Fault) : Prop :=
  StopsEarly faults rules first c fault ∨ ∃ start count, StopsLate faults rules first c start count fault

/-- An insertion fails with an error, and this is how it leaves the connection. -/
inductive Breaks (faults : Statement → Option Fault) (rules : List Rule) (first : Bool) (c : Connection) :
    Error → Connection → Prop
  /-- The database refuses a statement, and everything is rolled back. -/
  | refused {reason : Reason} (stops : Stops faults rules first c (.refused reason)) :
      Breaks faults rules first c (.failed .insert reason) c.rolledBack
  /-- The statements stop for another cause, and nothing was written. -/
  | stopped {e : Error} (early : StopsEarly faults rules first c (.stopped e)) : Breaks faults rules first c e c
  /-- The statements stop for another cause, and some rows were written, in a transaction that stays open. -/
  | strayed {e : Error} {start : Cell} {count : Nat}
      (late : StopsLate faults rules first c start count (.stopped e)) :
      Breaks faults rules first c e (c.filled (newRows rules start count))

theorem statements_of_stops (given : rules ≠ []) {fault : Fault} (stops : Stops faults rules first c fault) :
    ∃ c', (statements faults rules first).run c = (.error fault, c') ∧ c'.rolledBack = c.rolledBack := by
  rcases stops with early | ⟨start, count, late⟩
  · exact ⟨c, run_of_early given early, rfl⟩
  · exact ⟨_, run_of_late given late, rfl⟩

theorem insertBatch_eq_error_iff (given : rules ≠ []) :
    insertBatch faults rules first c = (.error e, c') ↔ Breaks faults rules first c e c' := by
  have some : rules.isEmpty = false := by simpa using given
  unfold insertBatch
  rw [some, if_neg Bool.false_ne_true]
  constructor
  · intro failed
    rcases ran : (statements faults rules first).run c with ⟨result, between⟩
    rw [ran] at failed
    cases result with
    | ok _ => cases failed
    | error fault =>
      have stops := (statements_eq_error_iff given).mp ran
      cases fault with
      | refused reason =>
        cases failed
        rcases stops with ⟨early, rfl⟩ | ⟨start, count, late, rfl⟩
        · exact .refused (.inl early)
        · exact .refused (.inr ⟨start, count, late⟩)
      | stopped e =>
        cases failed
        rcases stops with ⟨early, rfl⟩ | ⟨start, count, late, rfl⟩
        · exact .stopped early
        · exact .strayed late
  · intro breaks
    cases breaks with
    | refused stops =>
      obtain ⟨between, ran, same⟩ := statements_of_stops given stops
      rw [ran, handled, same]
    | stopped early =>
      rw [run_of_early given early]
      rfl
    | strayed late =>
      rw [run_of_late given late]
      rfl

/-! ## Rows that are carried on -/

/-- The operation deletes no rule with the id, keeps the connection, and is not rolled back for having more ids than
a statement may have parameters. -/
def Operation.Spares (capacity : Capacity) (id : Text) : Operation → Prop
  | .insertAll rules _ => (rules.map (·.id)).Nodup → rules.length ≤ capacity.value
  | .delete other => other ≠ id
  | .close => False
  | .reopen => False
  | _ => True

/-- The operation commits what is seen, unless it is refused. -/
def Operation.Commits : Operation → Prop
  | .insertAll rules _ => rules ≠ []
  | .prepare => False
  | .close => False
  | .reopen => False
  | _ => True

/-- A row with the id is still seen, and what is committed has not changed or is everything that is seen. -/
structure Carries (id : Text) (s s' : Store) : Prop where
  usable : s'.Usable
  seen : s'.rows.any (hasId id) = true
  saved : s'.saved = s.saved ∨ s'.saved = s'.rows

theorem carries_opened (usable : s.Usable) (seen : s.rows.any (hasId id) = true) : Carries id s s.opened :=
  ⟨usable.opened, seen, .inl rfl⟩

/-- Everything that is seen has been committed. -/
theorem carries_committed (usable : s.Usable) {rows : List Row} (seen : rows.any (hasId id) = true) :
    Carries id s { s.opened with rows, saved := rows } :=
  ⟨⟨usable.medium, usable.hasTable⟩, seen, .inr rfl⟩

theorem insertAll_carries (usable : s.Usable) (seen : s.rows.any (hasId id) = true)
    (few : (rules.map (·.id)).Nodup → rules.length ≤ s.capacity.value) (first : Bool) :
    Carries id s ((insertAll rules first).run s).2 ∧
      (rules ≠ [] → ((insertAll rules first).run s).1 = .ok () →
        ((insertAll rules first).run s).2.saved = ((insertAll rules first).run s).2.rows) := by
  by_cases given : rules = []
  · subst given
    exact ⟨⟨usable, seen, .inl rfl⟩, fun some => absurd rfl some⟩
  obtain ⟨e, refused, -⟩ | ⟨distinct, many, -⟩ | ⟨start, -, -, -, -, adds⟩ := insertAll_cases usable given first
  · rw [refused]
    exact ⟨carries_opened usable seen, fun _ done => by cases done⟩
  · exact absurd (few distinct) (Nat.not_le.mpr many)
  · obtain ⟨rows, left⟩ := run_addRows_adds start ((List.range rules.length).zip rules) s.opened
    have still : (s.rows ++ rows).any (hasId id) = true := by rw [List.any_append, seen, Bool.true_or]
    rw [adds]
    rcases added : (addRows start ((List.range rules.length).zip rules)).run s.opened with ⟨answer, between⟩
    rw [added] at left
    dsimp only at left
    subst left
    cases answer with
    | ok _ => exact ⟨carries_committed usable still, fun _ _ => rfl⟩
    | error e => exact ⟨⟨⟨usable.medium, usable.hasTable⟩, still, .inl rfl⟩, fun _ done => by cases done⟩

theorem change_carries (usable : s.Usable) (seen : s.rows.any (hasId id) = true) (attempt : Attempt) (other : Text)
    (texts : List Text) {edit : Row → Row} (kept : ∀ row, (edit row).id = row.id) :
    Carries id s ((change attempt other texts edit).run s).2 ∧
      (((change attempt other texts edit).run s).1 = .ok () →
        ((change attempt other texts edit).run s).2.saved = ((change attempt other texts edit).run s).2.rows) := by
  cases encodable : Row.unencodable? (texts ++ [other]) with
  | some text =>
    rw [run_change_unencodable usable attempt other encodable]
    exact ⟨carries_opened usable seen, fun done => by cases done⟩
  | none =>
    rw [run_change usable attempt other encodable]
    have still : (s.rows.map fun row => if hasId other row then edit row else row).any (hasId id) = true := by
      rw [List.any_map, ← seen]
      congr 1
      funext row
      dsimp only [Function.comp]
      split
      · rw [hasId, hasId, kept]
      · rfl
    exact ⟨carries_committed usable still, fun _ => rfl⟩

theorem delete_carries (usable : s.Usable) (seen : s.rows.any (hasId id) = true) {other : Text}
    (different : other ≠ id) :
    Carries id s ((delete other).run s).2 ∧
      (∀ found, ((delete other).run s).1 = .ok found →
        ((delete other).run s).2.saved = ((delete other).run s).2.rows) := by
  cases scalar : isScalar other with
  | false =>
    rw [run_delete_unencodable usable scalar]
    exact ⟨carries_opened usable seen, fun _ done => by cases done⟩
  | true =>
    rw [run_delete usable scalar]
    obtain ⟨row, member, named⟩ := List.any_eq_true.mp seen
    have still : (s.rows.filter fun row => !hasId other row).any (hasId id) = true := by
      refine List.any_eq_true.mpr ⟨row, List.mem_filter.mpr ⟨member, ?_⟩, named⟩
      simp only [hasId, beq_iff_eq] at named
      simp [hasId, named, Ne.symm different]
    exact ⟨carries_committed usable still, fun _ _ => rfl⟩

/-- An operation carries a row on, and commits it if it succeeds. -/
theorem Operation.carries (usable : s.Usable) (seen : s.rows.any (hasId id) = true)
    (spares : operation.Spares s.capacity id) :
    Carries id s (operation.onStore s).2 ∧
      (operation.Commits → ∀ reply, (operation.onStore s).1 = .ok reply →
        (operation.onStore s).2.saved = (operation.onStore s).2.rows) := by
  have finished {x : Action Unit} {reply : Reply} (done : (x.run s).1.map (fun _ => Reply.done) = .ok reply) :
      (x.run s).1 = .ok () := by
    rcases ran : (x.run s).1 with e | _
    · rw [ran] at done
      cases done
    · rfl
  cases operation with
  | insert r first =>
    have one : 1 ≤ s.capacity.value := Nat.le_trans (by decide) s.capacity.row_le
    obtain ⟨carried, commits⟩ := @insertAll_carries [r] s id usable seen (fun _ => one) first
    simp only [Operation.onStore, Operation.perform, run_done]
    exact ⟨carried, fun _ reply done => commits (List.cons_ne_nil _ _) (finished done)⟩
  | insertAll rules first =>
    obtain ⟨carried, commits⟩ := insertAll_carries usable seen spares first
    simp only [Operation.onStore, Operation.perform, run_done]
    exact ⟨carried, fun given reply done => commits given (finished done)⟩
  | update r =>
    obtain ⟨carried, commits⟩ :=
      change_carries usable seen (.update r.id) r.id (Row.textsOf r) (fun row => (rfl : (row.withRule r).id = row.id))
    simp only [Operation.onStore, Operation.perform, run_done]
    exact ⟨carried, fun _ reply done => commits (finished done)⟩
  | setEnabled other value =>
    obtain ⟨carried, commits⟩ := change_carries usable seen (.toggle other) other []
      (fun row => (rfl : { row with enabled := .integer (if value then 1 else 0) }.id = row.id))
    simp only [Operation.onStore, Operation.perform, run_done]
    exact ⟨carried, fun _ reply done => commits (finished done)⟩
  | delete other =>
    obtain ⟨carried, commits⟩ := delete_carries usable seen spares
    simp only [Operation.onStore, Operation.perform, run_bind]
    rcases ran : (Store.delete other).run s with ⟨answer, s'⟩
    rw [ran] at carried commits
    cases answer with
    | ok found => exact ⟨carried, fun _ _ _ => commits found rfl⟩
    | error e => exact ⟨carried, fun _ _ done => by cases done⟩
  | prepare =>
    simp only [Operation.onStore, Operation.perform, run_done, run_prepare usable.medium]
    exact ⟨⟨⟨usable.medium, rfl⟩, seen, .inl rfl⟩, fun commits => commits.elim⟩
  | close => exact spares.elim
  | reopen => exact spares.elim

/-- One of the operations is such that it commits what is seen, and it is not refused. -/
def OneCommits (operations : List Operation) (s : Store) : Prop :=
  ∃ pair ∈ operations.zip (runAll Operation.onStore operations s).1,
    pair.1.Commits ∧ ∃ reply, pair.2 = .ok reply

/-- After operations that spare it, a row is committed if it was, or if one of them commits. -/
theorem saved_of_runAll (usable : s.Usable) (seen : s.rows.any (hasId id) = true)
    (spared : ∀ operation ∈ operations, operation.Spares s.capacity id)
    (committed : s.saved.any (hasId id) = true ∨ OneCommits operations s) :
    (runAll Operation.onStore operations s).2.saved.any (hasId id) = true := by
  induction operations generalizing s with
  | nil =>
    rcases committed with saved | ⟨pair, member, -⟩
    · exact saved
    · cases member
  | cons operation operations ih =>
    obtain ⟨own, others⟩ := List.forall_mem_cons.mp spared
    obtain ⟨carried, commits⟩ := Operation.carries usable seen own
    refine ih carried.usable carried.seen ((capacity_onStore usable operation).symm ▸ others) ?_
    rcases committed with saved | ⟨pair, member, writes, reply, done⟩
    · rcases carried.saved with same | same
      · exact .inl (same ▸ saved)
      · exact .inl (same ▸ carried.seen)
    · rw [runAll, List.zip_cons_cons] at member
      rcases List.mem_cons.mp member with rfl | later
      · exact .inl (commits writes reply done ▸ carried.seen)
      · exact .inr ⟨pair, later, writes, reply, done⟩

theorem ids_newRows (numeric : Numeric start) :
    (newRows rules start count).map (·.id) = (rules.take count).map fun rule => .text rule.id := by
  have each (pair : Nat × Rule) :
      ((start.shifted? pair.1).map (Row.ofRule pair.2)).map (·.id) = some (.text pair.2.id) := by
    obtain ⟨position, shifted⟩ := numeric pair.1
    rw [shifted]
    rfl
  have rest : ((List.range rules.length).zip rules).map Prod.snd = rules := List.map_snd_zip (by simp)
  calc (newRows rules start count).map (·.id)
      = (((List.range rules.length).zip rules).take count).map fun pair => .text pair.2.id := by
        rw [newRows, rowsFrom, List.map_filterMap, ← List.filterMap_eq_map']
        exact List.filterMap_congr fun pair _ => each pair
    _ = ((((List.range rules.length).zip rules).map Prod.snd).take count).map fun rule => .text rule.id := by
        rw [← List.map_take, List.map_map]
        rfl
    _ = (rules.take count).map fun rule => .text rule.id := by rw [rest]

/-! ## Whether all rules are inserted or none -/

/-- What is left of a batch that is not inserted. An insertion that fails is one of three kinds: refused by the
database and rolled back, stopped before anything was written, or stopped later. In the first two cases a connection
where everything was committed is as it was. In the third, the rows that were written are seen in an open transaction,
and each of them is committed when any of the operations that come next is, if none of these deletes it, closes the
connection or is rolled back. -/
theorem insertBatch_remains (given : rules ≠ []) (faults : Statement → Option Fault) (first : Bool)
    (c : Connection) :
    (∀ e c', insertBatch faults rules first c = (.error e, c') ↔ Breaks faults rules first c e c') ∧
      (c.Idle → c.rolledBack = c) ∧
      (c.store.connected = true →
        (insertAll rules first).run c.store =
          ((insertBatch (foreseen rules first c.store) rules first c).1,
            (insertBatch (foreseen rules first c.store) rules first c).2.store)) ∧
      ∀ e start count, StopsLate faults rules first c start count (.stopped e) → c.store.Usable →
        ∀ rule ∈ rules.take count, ∀ operations : List Operation,
          (∀ operation ∈ operations, operation.Spares c.store.capacity rule.id) →
          OneCommits operations (c.filled (newRows rules start count)).store →
          (runAll Operation.onStore operations (c.filled (newRows rules start count)).store).2.saved.any
            (hasId rule.id) = true := by
  refine ⟨fun e c' => insertBatch_eq_error_iff given, Connection.Idle.rolledBack,
    fun connected => insertAll_eq_insertBatch connected rules first, ?_⟩
  intro e start count late usable rule member operations spared commits
  refine saved_of_runAll ⟨usable.medium, usable.hasTable⟩ ?_ spared (.inr commits)
  have written : (.text rule.id) ∈ (newRows rules start count).map (·.id) := by
    rw [ids_newRows (numeric_of_startFor late.admitted.found)]
    exact List.mem_map_of_mem member
  obtain ⟨row, inside, named⟩ := List.mem_map.mp written
  refine List.any_eq_true.mpr ⟨row, List.mem_append_right _ inside, ?_⟩
  rw [hasId, named, beq_self_eq_true]

/-- An open connection to a store where nothing is kept. -/
def emptyConnection : Connection := ⟨⟨.database, true, true, [], [], .usual⟩, false⟩

/-- The second rule cannot be kept: its substitution has no UTF-8 form. -/
def unevenBatch : List Rule :=
  [Rule.letterRule 0x61 0x62, { Rule.letterRule 0x63 0x64 with substitution := some [0xD800] }]

/-- The insertion fails, and the next one commits the first rule. -/
theorem insertBatch_remains_uneven :
    let c := emptyConnection
    let c' := c.filled (newRows unevenBatch (.integer (-2)) 1)
    c.Idle ∧ unevenBatch ≠ [] ∧
      insertBatch (foreseen unevenBatch true c.store) unevenBatch true c = (.error (.unencodable [0xD800]), c') ∧
      (insertAll unevenBatch true).run c.store = (.error (.unencodable [0xD800]), c'.store) ∧
      c'.begun = true ∧ c'.store.rows.map (·.id) = [.text [0x61]] ∧ c'.store.saved = [] ∧
      (runAll Operation.onStore [.insert (Rule.letterRule 0x65 0x66) true] c'.store).2.saved.any
        (hasId [0x61]) = true := by
  have next : ((Operation.insert (Rule.letterRule 0x65 0x66) true).onStore
      (emptyConnection.filled (newRows unevenBatch (.integer (-2)) 1)).store).1 = .ok .done := by cbv
  intro c c'
  have given : unevenBatch ≠ [] := List.cons_ne_nil _ _
  have idle : c.Idle := ⟨rfl, rfl⟩
  have admitted : Admitted (foreseen unevenBatch true c.store) unevenBatch true c (.integer (-2)) :=
    ⟨by decide, rfl, by cbv, rfl, rfl⟩
  have late : StopsLate (foreseen unevenBatch true c.store) unevenBatch true c (.integer (-2)) 1
      (.stopped (.unencodable [0xD800])) := by
    refine ⟨admitted, .inr rfl, fun number less => ?_, .inl ⟨by decide, rfl⟩⟩
    obtain rfl : number = 0 := by omega
    rfl
  obtain ⟨fails, -, same, later⟩ := insertBatch_remains given (foreseen unevenBatch true c.store) true c
  have failed : insertBatch (foreseen unevenBatch true c.store) unevenBatch true c =
      (.error (.unencodable [0xD800]), c') := (fails _ _).mpr (.strayed late)
  refine ⟨idle, given, failed, ?_, rfl, rfl, rfl, ?_⟩
  · rw [same rfl, failed]
  · refine later _ _ _ late ⟨rfl, rfl⟩ (Rule.letterRule 0x61 0x62) (List.mem_cons_self ..) _ ?_ ?_
    · intro operation member
      obtain rfl := List.mem_singleton.mp member
      trivial
    · exact ⟨_, List.mem_cons_self .., trivial, .done, next⟩

end UrlRules.Store
