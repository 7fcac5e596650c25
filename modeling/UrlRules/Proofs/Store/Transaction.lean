import Mathlib.Data.Nat.Find
import UrlRules.Proofs.Store.Actions

/-!
# Inserting rules, statement by statement

Rules are inserted by five kinds of statements (`Statement`), and each may fail: the database refuses it, or it
stops for another cause (`Fault`). What the database refuses is rolled back. Rows are inserted in a transaction that
is begun before the first of them (`insertBatch`).

With the faults that the store itself foresees this is the insertion of the store (`insertAll_eq_insertBatch`). With any
faults whatever, the statements stop before a transaction is begun, or with some of the rows inserted in an open one
(`statements_eq_error_iff`).
-/
namespace UrlRules.Store

open Text

/-- The statements of inserting rules. A transaction is begun where none is open. -/
inductive Statement where
  | takenIds
  | ends
  | begin
  | insert (number : Nat)
  | commit
  deriving DecidableEq, Repr

/-- How a statement fails: the database refuses it, or it stops for another cause, such as a value that it cannot
be given. -/
inductive Fault where
  | refused (reason : Reason)
  | stopped (error : Error)
  deriving DecidableEq, Repr

/-- A store as an open connection sees it. -/
structure Connection where
  store : Store
  /-- Whether a transaction is open. -/
  begun : Bool
  deriving DecidableEq, Repr

namespace Connection

/-- No transaction is open, and nothing is left to be committed. -/
structure Idle (c : Connection) : Prop where
  closed : c.begun = false
  committed : c.store.saved = c.store.rows

def rolledBack (c : Connection) : Connection := ⟨{ c.store with rows := c.store.saved }, false⟩

def committed (c : Connection) : Connection := ⟨{ c.store with saved := c.store.rows }, false⟩

/-- Rows are seen in an open transaction. -/
def filled (c : Connection) (rows : List Row) : Connection :=
  ⟨{ c.store with rows := c.store.rows ++ rows }, true⟩

theorem Idle.rolledBack {c : Connection} (idle : c.Idle) : c.rolledBack = c := by
  obtain ⟨⟨medium, connected, hasTable, rows, saved⟩, begun⟩ := c
  obtain ⟨closed, committed⟩ := idle
  dsimp only at closed committed
  rw [closed, committed, Connection.rolledBack]

end Connection

/-! ## Statements -/

/-- Statements that may fail; what was done by then stays. -/
abbrev Batch (α : Type) := ExceptT Fault (StateM Connection) α

section Run

variable (faults : Statement → Option Fault)

def issue (statement : Statement) : Batch Unit :=
  match faults statement with
  | some fault => throw fault
  | none => return

def beginIfNone : Batch Unit := do
  if !(← get).begun then
    issue faults .begin
    modify fun c => { c with begun := true }

def insertRows (start : Cell) : List (Nat × Rule) → Batch Unit
  | [] => return
  | (number, rule) :: rest => do
      let some position := start.shifted? number | throw (.stopped .positionNotNumber)
      beginIfNone faults
      issue faults (.insert number)
      modify fun c => { c with store.rows := c.store.rows ++ [Row.ofRule rule position] }
      insertRows start rest

def statements (rules : List Rule) (first : Bool) : Batch Unit := do
  let ids := rules.map (·.id)
  if !ids.Nodup then throw (.stopped .repeatedIds)
  issue faults .takenIds
  let rows := (← get).store.rows
  let taken := takenIds rows ids
  if !taken.isEmpty then throw (.stopped (.taken taken))
  issue faults .ends
  let some start := startFor rows rules.length first | throw (.stopped .positionNotNumber)
  insertRows faults start ((List.range rules.length).zip rules)
  issue faults .commit
  modify Connection.committed

/-- What becomes of the statements: the database's refusal is rolled back and told, another cause is passed on. -/
def handled : Except Fault Unit × Connection → Except Error Unit × Connection
  | (.ok _, c) => (.ok (), c)
  | (.error (.refused reason), c) => (.error (.failed .insert reason), c.rolledBack)
  | (.error (.stopped e), c) => (.error e, c)

/-- Inserts rules on an open connection. -/
def insertBatch (rules : List Rule) (first : Bool) (c : Connection) : Except Error Unit × Connection :=
  if rules.isEmpty then (.ok (), c) else handled ((statements faults rules first).run c)

end Run

/-! ## Rows that are inserted -/

/-- The rows of rules with their numbers, on the positions from one on. -/
def rowsFrom (start : Cell) (pairs : List (Nat × Rule)) : List Row :=
  pairs.filterMap fun (number, rule) => (start.shifted? number).map (Row.ofRule rule)

/-- The rows of the first so many rules. -/
def newRows (rules : List Rule) (start : Cell) (count : Nat) : List Row :=
  rowsFrom start (((List.range rules.length).zip rules).take count)

variable {faults : Statement → Option Fault} {rules : List Rule} {first : Bool} {c c' : Connection} {start : Cell}
variable {pairs before : List (Nat × Rule)} {added : List Row} {fault : Fault} {count : Nat} {s : Store}

theorem run_issue (faults : Statement → Option Fault) (statement : Statement) (c : Connection) :
    (issue faults statement).run c =
      match faults statement with
      | some fault => (.error fault, c)
      | none => (.ok (), c) := by
  unfold issue
  cases faults statement <;> rfl

/-- A transaction is open, or can be begun. -/
def Begins (faults : Statement → Option Fault) (c : Connection) : Prop := c.begun = true ∨ faults .begin = none

theorem run_beginIfNone (begins : Begins faults c) : (beginIfNone faults).run c = (.ok (), c.filled []) := by
  unfold beginIfNone
  rw [run_bind, run_get]
  dsimp only
  cases begun : c.begun with
  | true => simp [run_pure, Connection.filled, ← begun]
  | false =>
    have opens : faults .begin = none := by simpa [Begins, begun] using begins
    simp [run_bind, run_issue, opens, run_modify, Connection.filled]

theorem run_beginIfNone_error (closed : c.begun = false) (fails : faults .begin = some fault) :
    (beginIfNone faults).run c = (.error fault, c) := by
  unfold beginIfNone
  simp [run_bind, run_get, closed, run_issue, fails]

theorem filled_filled (c : Connection) (added others : List Row) :
    (c.filled added).filled others = c.filled (added ++ others) := by
  simp [Connection.filled]

/-- A position that can be counted on from. -/
def Numeric (start : Cell) : Prop := ∀ n : Int, ∃ position, start.shifted? n = some position

theorem numeric_of_startFor {rows : List Row} {number : Nat} (found : startFor rows number first = some start) :
    Numeric start := by
  have shifted {cell : Cell} {m : Int} (made : cell.shifted? m = some start) : Numeric start := by
    intro n
    cases cell with
    | integer k =>
      obtain rfl := Option.some.inj made
      exact ⟨_, rfl⟩
    | real x =>
      obtain rfl := Option.some.inj made
      exact ⟨_, rfl⟩
    | _ => cases made
  unfold startFor at found
  cases first <;> exact shifted found

theorem run_insertRows_cons {number : Nat} {rule : Rule} {position : Cell}
    (placed : start.shifted? number = some position) (begins : Begins faults c) (rest : List (Nat × Rule)) :
    (insertRows faults start ((number, rule) :: rest)).run c =
      match faults (.insert number) with
      | some fault => (.error fault, c.filled [])
      | none => (insertRows faults start rest).run (c.filled [Row.ofRule rule position]) := by
  rw [insertRows]
  simp only [placed, run_bind, run_beginIfNone begins, run_issue]
  cases faults (.insert number) with
  | some fault => rfl
  | none => simp [run_modify, Connection.filled]

/-- The first row is inserted in a transaction. -/
theorem run_insertRows_begun (numeric : Numeric start) (begins : Begins faults c) (given : pairs ≠ []) :
    (insertRows faults start pairs).run c = (insertRows faults start pairs).run (c.filled []) := by
  obtain ⟨⟨number, rule⟩, rest, rfl⟩ := List.exists_cons_of_ne_nil given
  obtain ⟨position, placed⟩ := numeric number
  have begun : Begins faults (c.filled []) := .inl rfl
  rw [run_insertRows_cons placed begins, run_insertRows_cons placed begun, filled_filled, filled_filled]
  rfl

/-- Rows whose statements do not fail are inserted before the others. -/
theorem run_insertRows_append (numeric : Numeric start) (passed : ∀ pair ∈ before, faults (.insert pair.1) = none)
    (rest : List (Nat × Rule)) (added : List Row) :
    (insertRows faults start (before ++ rest)).run (c.filled added) =
      (insertRows faults start rest).run (c.filled (added ++ rowsFrom start before)) := by
  induction before generalizing added with
  | nil => rw [rowsFrom, List.filterMap_nil, List.append_nil, List.nil_append]
  | cons pair before ih =>
    obtain ⟨number, rule⟩ := pair
    obtain ⟨own, others⟩ := List.forall_mem_cons.mp passed
    obtain ⟨position, placed⟩ := numeric number
    have begun : Begins faults (c.filled added) := .inl rfl
    rw [List.cons_append, run_insertRows_cons placed begun, own]
    simp only [filled_filled]
    rw [ih others]
    simp [rowsFrom, placed]

/-- The rows of the first so many rules are inserted, and then those of the others. -/
theorem run_insertRows_take (numeric : Numeric start) (begins : Begins faults c) (given : rules ≠ [])
    (passed : ∀ number < count, faults (.insert number) = none) :
    (insertRows faults start ((List.range rules.length).zip rules)).run c =
      (insertRows faults start (((List.range rules.length).zip rules).drop count)).run
        (c.filled (newRows rules start count)) := by
  have some : (List.range rules.length).zip rules ≠ [] := by
    simpa [List.zip_eq_nil_iff] using given
  have each : ∀ pair ∈ ((List.range rules.length).zip rules).take count, faults (.insert pair.1) = none := by
    intro pair member
    obtain ⟨number, bound, rfl⟩ := List.mem_take_iff_getElem.mp member
    rw [List.getElem_zip, List.getElem_range]
    exact passed number (Nat.lt_of_lt_of_le bound (Nat.min_le_left ..))
  rw [run_insertRows_begun numeric begins some]
  conv_lhs => rw [← List.take_append_drop count ((List.range rules.length).zip rules)]
  rw [run_insertRows_append numeric each]
  rfl

/-! ## Where the statements stop -/

/-- The rules are new, and their positions are found. -/
structure Admitted (faults : Statement → Option Fault) (rules : List Rule) (first : Bool) (c : Connection)
    (start : Cell) : Prop where
  distinct : (rules.map (·.id)).Nodup
  asked : faults .takenIds = none
  free : takenIds c.store.rows (rules.map (·.id)) = []
  measured : faults .ends = none
  found : startFor c.store.rows rules.length first = some start

/-- The statements stop before a transaction is begun. -/
inductive StopsEarly (faults : Statement → Option Fault) (rules : List Rule) (first : Bool) (c : Connection) :
    Fault → Prop
  | repeatedIds (repeated : ¬(rules.map (·.id)).Nodup) : StopsEarly faults rules first c (.stopped .repeatedIds)
  | takenIds {fault : Fault} (distinct : (rules.map (·.id)).Nodup) (fails : faults .takenIds = some fault) :
      StopsEarly faults rules first c fault
  | taken (distinct : (rules.map (·.id)).Nodup) (asked : faults .takenIds = none)
      (taken : Store.takenIds c.store.rows (rules.map (·.id)) ≠ []) :
      StopsEarly faults rules first c (.stopped (.taken (Store.takenIds c.store.rows (rules.map (·.id)))))
  | ends {fault : Fault} (distinct : (rules.map (·.id)).Nodup) (asked : faults .takenIds = none)
      (free : Store.takenIds c.store.rows (rules.map (·.id)) = []) (fails : faults .ends = some fault) :
      StopsEarly faults rules first c fault
  | unplaced (distinct : (rules.map (·.id)).Nodup) (asked : faults .takenIds = none)
      (free : Store.takenIds c.store.rows (rules.map (·.id)) = []) (measured : faults .ends = none)
      (none : startFor c.store.rows rules.length first = none) :
      StopsEarly faults rules first c (.stopped .positionNotNumber)
  | begin {fault : Fault} {start : Cell} (admitted : Admitted faults rules first c start) (closed : c.begun = false)
      (fails : faults .begin = some fault) : StopsEarly faults rules first c fault

/-- The statements stop at inserting a row, or at the commit after all of them. -/
structure StopsLate (faults : Statement → Option Fault) (rules : List Rule) (first : Bool) (c : Connection)
    (start : Cell) (count : Nat) (fault : Fault) : Prop where
  admitted : Admitted faults rules first c start
  begins : Begins faults c
  passed : ∀ number < count, faults (.insert number) = none
  fails : (count < rules.length ∧ faults (.insert count) = some fault) ∨
    (count = rules.length ∧ faults .commit = some fault)

theorem Admitted.run (admitted : Admitted faults rules first c start) :
    (statements faults rules first).run c =
      match (insertRows faults start ((List.range rules.length).zip rules)).run c with
      | (.ok _, c') =>
          match faults .commit with
          | some fault => (.error fault, c')
          | none => (.ok (), c'.committed)
      | (.error fault, c') => (.error fault, c') := by
  obtain ⟨distinct, asked, free, measured, found⟩ := admitted
  unfold statements
  simp only [distinct, decide_true, Bool.not_true, Bool.false_eq_true, if_false, run_bind, run_issue, asked, run_get,
    free, List.isEmpty_nil, measured, found]
  rcases (insertRows faults start ((List.range rules.length).zip rules)).run c with ⟨result, c'⟩
  cases result with
  | error fault => rfl
  | ok _ => cases faults .commit <;> rfl

theorem run_of_early (given : rules ≠ []) (early : StopsEarly faults rules first c fault) :
    (statements faults rules first).run c = (.error fault, c) := by
  cases early with
  | repeatedIds repeated =>
    unfold statements
    simp [repeated, run_throw]
  | takenIds distinct fails =>
    unfold statements
    simp [run_bind, distinct, run_issue, fails]
  | taken distinct asked taken =>
    unfold statements
    simp [run_bind, distinct, run_issue, asked, run_get, taken, run_throw]
  | ends distinct asked free fails =>
    unfold statements
    simp [run_bind, distinct, run_issue, asked, run_get, free, fails]
  | unplaced distinct asked free measured none =>
    unfold statements
    simp [run_bind, distinct, run_issue, asked, run_get, free, measured, none, run_throw]
  | @begin _ start admitted closed fails =>
    rw [admitted.run]
    have some : (List.range rules.length).zip rules ≠ [] := by simpa [List.zip_eq_nil_iff] using given
    obtain ⟨⟨number, rule⟩, rest, same⟩ := List.exists_cons_of_ne_nil some
    obtain ⟨position, shifted⟩ := numeric_of_startFor admitted.found number
    rw [same, insertRows]
    simp [shifted, run_bind, run_beginIfNone_error closed fails]

theorem run_of_late (given : rules ≠ []) (late : StopsLate faults rules first c start count fault) :
    (statements faults rules first).run c = (.error fault, c.filled (newRows rules start count)) := by
  obtain ⟨admitted, begins, passed, fails⟩ := late
  have numeric := numeric_of_startFor admitted.found
  rw [admitted.run, run_insertRows_take numeric begins given passed]
  rcases fails with ⟨more, fails⟩ | ⟨rfl, fails⟩
  · have bound : count < ((List.range rules.length).zip rules).length := by simpa using more
    obtain ⟨position, shifted⟩ := numeric count
    have begun : Begins faults (c.filled (newRows rules start count)) := .inl rfl
    rw [List.drop_eq_getElem_cons bound, List.getElem_zip, List.getElem_range, run_insertRows_cons shifted begun, fails]
    simp [filled_filled]
  · rw [List.drop_eq_nil_of_le (by simp)]
    simp [insertRows, run_pure, fails]

/-- If no statement fails, all rows are committed. -/
theorem run_of_passed (given : rules ≠ []) (admitted : Admitted faults rules first c start) (begins : Begins faults c)
    (passed : ∀ number < rules.length, faults (.insert number) = none) (commits : faults .commit = none) :
    (statements faults rules first).run c = (.ok (), (c.filled (newRows rules start rules.length)).committed) := by
  rw [admitted.run, run_insertRows_take (numeric_of_startFor admitted.found) begins given passed,
    List.drop_eq_nil_of_le (by simp)]
  simp [insertRows, run_pure, commits]

theorem early_or_admitted (faults : Statement → Option Fault) (rules : List Rule) (first : Bool) (c : Connection) :
    (∃ fault, StopsEarly faults rules first c fault) ∨
      ∃ start, Admitted faults rules first c start ∧ Begins faults c := by
  by_cases distinct : (rules.map (·.id)).Nodup
  · cases asked : faults .takenIds with
    | some fault => exact .inl ⟨fault, .takenIds distinct asked⟩
    | none =>
      by_cases free : takenIds c.store.rows (rules.map (·.id)) = []
      · cases measured : faults .ends with
        | some fault => exact .inl ⟨fault, .ends distinct asked free measured⟩
        | none =>
          cases found : startFor c.store.rows rules.length first with
          | none => exact .inl ⟨_, .unplaced distinct asked free measured found⟩
          | some start =>
            have admitted : Admitted faults rules first c start := ⟨distinct, asked, free, measured, found⟩
            cases closed : c.begun with
            | true => exact .inr ⟨start, admitted, .inl closed⟩
            | false =>
              cases opens : faults .begin with
              | some fault => exact .inl ⟨fault, .begin admitted closed opens⟩
              | none => exact .inr ⟨start, admitted, .inr opens⟩
      · exact .inl ⟨_, .taken distinct asked free⟩
  · exact .inl ⟨_, .repeatedIds distinct⟩

/-- The first of the rows that fails, or the commit, or nothing. -/
theorem late_or_passed (admitted : Admitted faults rules first c start) (begins : Begins faults c) :
    (∃ count fault, StopsLate faults rules first c start count fault) ∨
      (∀ number < rules.length, faults (.insert number) = none) ∧ faults .commit = none := by
  by_cases failing : ∃ number, number < rules.length ∧ faults (.insert number) ≠ none
  · obtain ⟨bound, some⟩ := Nat.find_spec failing
    obtain ⟨fault, fails⟩ := Option.ne_none_iff_exists'.mp some
    refine .inl ⟨Nat.find failing, fault, admitted, begins, fun number earlier => ?_, .inl ⟨bound, fails⟩⟩
    by_contra fails
    exact Nat.find_min failing earlier ⟨Nat.lt_trans earlier bound, fails⟩
  · have passed : ∀ number < rules.length, faults (.insert number) = none := by simpa using failing
    cases commits : faults .commit with
    | some fault => exact .inl ⟨rules.length, fault, admitted, begins, passed, .inr ⟨rfl, commits⟩⟩
    | none => exact .inr ⟨passed, rfl⟩

/-- The statements stop early, with the connection as it was, or late, with some of the rows seen in an open
transaction. -/
theorem statements_eq_error_iff (given : rules ≠ []) :
    (statements faults rules first).run c = (.error fault, c') ↔
      (StopsEarly faults rules first c fault ∧ c' = c) ∨
        ∃ start count, StopsLate faults rules first c start count fault ∧
          c' = c.filled (newRows rules start count) := by
  constructor
  · intro failed
    rcases early_or_admitted faults rules first c with ⟨fault', early⟩ | ⟨start, admitted, begins⟩
    · rw [run_of_early given early] at failed
      cases failed
      exact .inl ⟨early, rfl⟩
    rcases late_or_passed admitted begins with ⟨count, fault', late⟩ | ⟨passed, commits⟩
    · rw [run_of_late given late] at failed
      cases failed
      exact .inr ⟨start, count, late, rfl⟩
    · rw [run_of_passed given admitted begins passed commits] at failed
      cases failed
  · rintro (⟨early, rfl⟩ | ⟨start, count, late, rfl⟩)
    · exact run_of_early given early
    · exact run_of_late given late

/-! ## The faults that are foreseen -/

/-- What is wrong with a row that is to be inserted. -/
def rowFault? (start : Cell) (number : Nat) (rule : Rule) : Option Fault :=
  match start.shifted? number with
  | none => none
  | some position =>
      if isTooLarge position then some (.stopped .positionTooLarge)
      else (Row.unencodable? (Row.textsOf rule)).map fun text => .stopped (.unencodable text)

/-- The faults that the store foresees. -/
def foreseen (rules : List Rule) (first : Bool) (s : Store) : Statement → Option Fault
  | .takenIds =>
      if s.capacity.value < rules.length then some (.refused .tooManyParameters)
      else
        match unusable? s with
        | some reason => some (.refused reason)
        | none => (Row.unencodable? (rules.map (·.id))).map fun text => .stopped (.unencodable text)
  | .insert number => do rowFault? (← startFor s.rows rules.length first) number (← rules[number]?)
  | _ => none

/-- With what is wrong with the rows for faults, they are inserted as the store adds them. -/
theorem run_insertRows_foreseen (numeric : Numeric start) (begins : Begins faults c)
    (each : ∀ pair ∈ pairs, faults (.insert pair.1) = rowFault? start pair.1 pair.2) :
    ∃ begun, (insertRows faults start pairs).run c =
      (((addRows start pairs).run c.store).1.mapError .stopped,
        ⟨((addRows start pairs).run c.store).2, begun⟩) := by
  induction pairs generalizing c with
  | nil => exact ⟨c.begun, rfl⟩
  | cons pair pairs ih =>
    obtain ⟨number, rule⟩ := pair
    obtain ⟨own, others⟩ := List.forall_mem_cons.mp each
    obtain ⟨position, placed⟩ := numeric number
    rw [run_insertRows_cons placed begins, own]
    rw [addRows]
    cases large : isTooLarge position with
    | true =>
      refine ⟨true, ?_⟩
      simp [rowFault?, placed, large, run_throw, Except.mapError, Connection.filled]
    | false =>
      cases encodable : Row.unencodable? (Row.textsOf rule) with
      | some text =>
        refine ⟨true, ?_⟩
        simp [rowFault?, placed, large, encodable, run_throw, Except.mapError, Connection.filled]
      | none =>
        obtain ⟨begun, same⟩ := ih (c := c.filled [Row.ofRule rule position]) (.inl rfl) others
        refine ⟨begun, ?_⟩
        simp [rowFault?, placed, large, encodable, run_bind, run_modify]
        exact same

theorem run_connected {s : Store} (connected : s.connected = true) (refusal : Reason → Error) :
    (connect refusal).run s = (.ok (), s) := by
  unfold connect
  simp [run_bind, run_get, connected, run_pure]

theorem run_useTable_eq (attempt : Attempt) (s : Store) :
    (useTable attempt).run s =
      match unusable? s with
      | none => (.ok (), s)
      | some reason => (.error (.failed attempt reason), { s with rows := s.saved }) := by
  unfold useTable
  rw [run_bind, run_get]
  dsimp only
  cases unusable? s <;> rfl

theorem run_useParameters_eq (attempt : Attempt) (count : Nat) (s : Store) :
    (useParameters attempt count).run s =
      if s.capacity.value < count then (.error (.failed attempt .tooManyParameters), { s with rows := s.saved })
      else (.ok (), s) := by
  rcases Nat.lt_or_ge s.capacity.value count with many | few
  · rw [run_useParameters_refused many, if_pos many]
  · rw [run_useParameters few, if_neg (Nat.not_lt.mpr few)]

theorem foreseen_insert {s : Store} (found : startFor s.rows rules.length first = some start) :
    ∀ pair ∈ (List.range rules.length).zip rules,
      foreseen rules first s (.insert pair.1) = rowFault? start pair.1 pair.2 := by
  intro pair member
  obtain ⟨number, bound, rfl⟩ := List.mem_iff_getElem.mp member
  have inside : number < rules.length := by simpa using bound
  simp [foreseen, found, List.getElem?_eq_getElem inside]

/-- Inserting rules on an open connection is inserting them statement by statement, with the faults that are
foreseen. -/
theorem insertAll_eq_insertBatch (connected : c.store.connected = true) (rules : List Rule) (first : Bool) :
    (insertAll rules first).run c.store =
      ((insertBatch (foreseen rules first c.store) rules first c).1,
        (insertBatch (foreseen rules first c.store) rules first c).2.store) := by
  by_cases given : rules = []
  · subst given
    rfl
  have some : rules.isEmpty = false := by simpa using given
  unfold insertAll insertBatch
  simp only [some, Bool.false_eq_true, if_false, run_bind, run_connected connected]
  by_cases distinct : (rules.map (·.id)).Nodup
  · simp only [distinct, decide_true, Bool.not_true, Bool.false_eq_true, if_false]
    rw [run_bind, List.length_map, run_useParameters_eq]
    by_cases many : c.store.capacity.value < rules.length
    · have early : StopsEarly (foreseen rules first c.store) rules first c (.refused .tooManyParameters) :=
        .takenIds distinct (if_pos many)
      rw [if_pos many, run_of_early given early]
      rfl
    simp only [many, if_false, run_bind, run_useTable_eq]
    cases usable : unusable? c.store with
    | some reason =>
      have early : StopsEarly (foreseen rules first c.store) rules first c (.refused reason) :=
        .takenIds distinct (by simp [foreseen, many, usable])
      rw [run_of_early given early]
      rfl
    | none =>
      cases encodable : Row.unencodable? (rules.map (·.id)) with
      | some text =>
        have early : StopsEarly (foreseen rules first c.store) rules first c (.stopped (.unencodable text)) :=
          .takenIds distinct (by simp [foreseen, many, usable, encodable])
        rw [run_of_early given early]
        simp [run_throw, handled]
      | none =>
        have asked : foreseen rules first c.store .takenIds = none := by
          simp [foreseen, many, usable, encodable]
        simp only [run_bind, run_get]
        by_cases free : takenIds c.store.rows (rules.map (·.id)) = []
        · cases found : startFor c.store.rows rules.length first with
          | none =>
            rw [run_of_early given (.unplaced distinct asked free rfl found)]
            simp [free, run_throw, handled]
          | some start =>
            have admitted : Admitted (foreseen rules first c.store) rules first c start :=
              ⟨distinct, asked, free, rfl, found⟩
            have begins : Begins (foreseen rules first c.store) c := .inr rfl
            obtain ⟨begun, same⟩ :=
              run_insertRows_foreseen (numeric_of_startFor found) begins (foreseen_insert found)
            rw [admitted.run, same]
            rcases added : (addRows start ((List.range rules.length).zip rules)).run c.store with ⟨result, s'⟩
            cases result with
            | error e => simp [free, run_bind, added, handled, Except.mapError]
            | ok _ =>
              have commits : foreseen rules first c.store .commit = none := rfl
              simp [free, run_bind, run_commit, added, handled, Except.mapError, commits, Connection.committed]
        · rw [run_of_early given (.taken distinct asked free)]
          simp [free, run_throw, handled]
  · rw [run_of_early given (.repeatedIds distinct)]
    simp [distinct, run_throw, handled]

end UrlRules.Store
