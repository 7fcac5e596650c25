import UrlRules.Proofs.Json.Characters
import UrlRules.Proofs.Results
import UrlRules.Store.Basic

/-!
# Running actions on a store

What the parts of an action do to a store, one lemma for each, so that running an action is
rewriting. A store is `Usable` if its database is there and has the table of rules.
-/
namespace UrlRules.Store

open Text

variable {α β : Type} {s : Store}

theorem run_commit (s : Store) : commit.run s = (.ok (), { s with saved := s.rows }) := rfl

/-- The store with a connection. -/
def opened (s : Store) : Store := { s with connected := true }

structure Usable (s : Store) : Prop where
  medium : s.medium = .database
  hasTable : s.hasTable = true

/-- The database has not refused a statement because a position does not fit a cell, or because there are more
parameters than it takes. -/
structure Executed {α : Type} (answer : Except Error α) : Prop where
  position : answer ≠ .error .positionTooLarge
  parameters : answer ≠ .error (.failed .insert .tooManyParameters)

theorem Executed.ok {α : Type} (a : α) : Executed (.ok a) := ⟨nofun, nofun⟩

theorem Executed.taken {α : Type} (ids : List Text) : Executed (.error (.taken ids) : Except Error α) := ⟨nofun, nofun⟩

theorem run_connect (medium : s.medium = .database) (refusal : Reason → Error) :
    (connect refusal).run s = (.ok (), s.opened) := by
  unfold connect
  simp only [run_bind, run_get]
  cases connected : s.connected with
  | true =>
    have same : s.opened = s := by rw [opened, ← connected]
    rw [same]
    rfl
  | false =>
    simp only [medium]
    rw [opened, medium]
    rfl

theorem Usable.opened (usable : s.Usable) : s.opened.Usable := ⟨usable.medium, usable.hasTable⟩

theorem run_useTable (usable : s.Usable) (attempt : Attempt) :
    (useTable attempt).run s = (.ok (), s) := by
  unfold useTable
  simp only [run_bind, run_get]
  simp only [unusable?, usable.medium, usable.hasTable]
  rfl

theorem run_useParameters {count : Nat} (few : count ≤ s.capacity.value) (attempt : Attempt) :
    (useParameters attempt count).run s = (.ok (), s) := by
  unfold useParameters
  rw [run_bind, run_get]
  dsimp only
  rw [if_neg (Nat.not_lt.mpr few)]
  rfl

theorem run_useParameters_refused {count : Nat} (many : s.capacity.value < count) (attempt : Attempt) :
    (useParameters attempt count).run s =
      (.error (.failed attempt .tooManyParameters), { s with rows := s.saved }) := by
  unfold useParameters
  rw [run_bind, run_get]
  dsimp only
  rw [if_pos many]
  rfl

/-! ## Reading -/

theorem run_list (usable : s.Usable) : list.run s = (rulesOf s.rows, s.opened) := by
  unfold list
  simp only [run_bind, run_connect usable.medium, run_useTable usable.opened, run_get]
  show (list.liftExcept (rulesOf s.rows)).run s.opened = _
  cases rulesOf s.rows <;> rfl

theorem run_enabled (usable : s.Usable) :
    enabled.run s = ((rulesOf s.rows).map fun rules => rules.filter (·.enabled), s.opened) := by
  rw [enabled, run_bind, run_list usable]
  cases rulesOf s.rows <;> rfl

theorem run_find_unencodable (usable : s.Usable) {id : Text} (lone : isScalar id = false) :
    (find id).run s = (.error (.failed (.retrieve id) (.unencodable id)), s.opened) := by
  unfold find
  simp only [run_bind, run_connect usable.medium, run_useTable usable.opened, lone, Bool.not_false, if_true,
    run_throw]

theorem run_find (usable : s.Usable) {id : Text} (scalar : isScalar id = true) :
    (find id).run s =
      (match s.rows.find? (hasId id) with
       | none => .ok none
       | some row => (ruleOf (.retrieve id) row).map some, s.opened) := by
  unfold find
  simp only [run_bind, run_connect usable.medium, run_useTable usable.opened, scalar, Bool.not_true,
    Bool.false_eq_true, if_false, run_get]
  have rows : s.opened.rows = s.rows := rfl
  rw [rows]
  cases s.rows.find? (hasId id) with
  | none => rfl
  | some row =>
    dsimp only
    cases ruleOf (.retrieve id) row <;> rfl

/-! ## Changing -/

/-- Adding rules adds rows, of all of them or of the first so many. -/
theorem run_addRows_adds (start : Cell) (pairs : List (Nat × Rule)) (s : Store) :
    ∃ added, ((addRows start pairs).run s).2 = { s with rows := s.rows ++ added } := by
  have none : s = { s with rows := s.rows ++ [] } := by rw [List.append_nil]
  induction pairs generalizing s with
  | nil => exact ⟨[], none⟩
  | cons pair pairs ih =>
    obtain ⟨offset, r⟩ := pair
    rw [addRows]
    split
    next position _ =>
      cases large : isTooLarge position with
      | true => exact ⟨[], none⟩
      | false =>
        cases encodable : Row.unencodable? (Row.textsOf r) with
        | some text => exact ⟨[], none⟩
        | none =>
          -- The row is written, and the others are added after it.
          let written : Store := { s with rows := s.rows ++ [Row.ofRule r position] }
          obtain ⟨added, ran⟩ := ih written (by rw [List.append_nil])
          refine ⟨Row.ofRule r position :: added, ran.trans ?_⟩
          rw [List.append_assoc, List.singleton_append]
    next => exact ⟨[], none⟩

section Insert

variable {rules : List Rule} {first : Bool}

theorem run_insertAll_repeated (medium : s.medium = .database) (given : rules ≠ [])
    (repeated : ¬(rules.map (·.id)).Nodup) :
    (insertAll rules first).run s = (.error .repeatedIds, s.opened) := by
  unfold insertAll
  simp [run_bind, given, run_connect medium, repeated, run_throw]

/-- What is not committed is lost with rules that are too many for one statement. -/
theorem run_insertAll_tooMany (medium : s.medium = .database) (distinct : (rules.map (·.id)).Nodup)
    (many : s.capacity.value < rules.length) :
    (insertAll rules first).run s =
      (.error (.failed .insert .tooManyParameters), { s.opened with rows := s.saved }) := by
  have given : rules ≠ [] := List.ne_nil_of_length_pos (Nat.lt_of_le_of_lt (Nat.zero_le _) many)
  have refused := run_useParameters_refused (s := s.opened) many .insert
  unfold insertAll
  simp [run_bind, given, run_connect medium, distinct, refused]
  rfl

variable (usable : s.Usable) (given : rules ≠ []) (distinct : (rules.map (·.id)).Nodup)
  (few : rules.length ≤ s.capacity.value)
include usable given distinct few

theorem run_insertAll_unencodable {text : Text}
    (unencodable : Row.unencodable? (rules.map (·.id)) = some text) :
    (insertAll rules first).run s = (.error (.unencodable text), s.opened) := by
  have few' := run_useParameters (s := s.opened) few .insert
  unfold insertAll
  simp [run_bind, given, run_connect usable.medium, distinct, few', run_useTable usable.opened, unencodable,
    run_throw]

variable (encodable : Row.unencodable? (rules.map (·.id)) = none)
include encodable

theorem run_insertAll_taken (taken : takenIds s.rows (rules.map (·.id)) ≠ []) :
    (insertAll rules first).run s =
      (.error (.taken (takenIds s.rows (rules.map (·.id)))), s.opened) := by
  have few' := run_useParameters (s := s.opened) few .insert
  have rows : s.opened.rows = s.rows := rfl
  unfold insertAll
  simp [run_bind, given, run_connect usable.medium, distinct, few', run_useTable usable.opened, encodable,
    run_get, rows, taken, run_throw]

theorem run_insertAll_unplaced (free : takenIds s.rows (rules.map (·.id)) = [])
    (unplaced : startFor s.rows rules.length first = none) :
    (insertAll rules first).run s = (.error .positionNotNumber, s.opened) := by
  have few' := run_useParameters (s := s.opened) few .insert
  have rows : s.opened.rows = s.rows := rfl
  unfold insertAll
  simp [run_bind, given, run_connect usable.medium, distinct, few', run_useTable usable.opened, encodable,
    run_get, rows, free, unplaced, run_throw]

theorem run_insertAll_free (free : takenIds s.rows (rules.map (·.id)) = []) {start : Cell}
    (found : startFor s.rows rules.length first = some start) :
    (insertAll rules first).run s =
      match (addRows start ((List.range rules.length).zip rules)).run s.opened with
      | (.ok _, s') => (.ok (), { s' with saved := s'.rows })
      | (.error e, s') => (.error e, s') := by
  have few' := run_useParameters (s := s.opened) few .insert
  have rows : s.opened.rows = s.rows := rfl
  unfold insertAll
  simp [run_bind, given, run_connect usable.medium, distinct, few', run_useTable usable.opened, encodable,
    run_get, rows, free, found, run_commit]
  rcases (addRows start ((List.range rules.length).zip rules)).run s.opened with ⟨result, s'⟩
  cases result <;> rfl

end Insert

/-- Rules are refused before any position is tried, they are too many for one statement, or they are new ones and
their rows are added. -/
theorem insertAll_cases (usable : s.Usable) {rules : List Rule} (given : rules ≠ []) (first : Bool) :
    (∃ e, (insertAll rules first).run s = (.error e, s.opened) ∧ Executed (.error e : Except Error Unit)) ∨
      ((rules.map (·.id)).Nodup ∧ s.capacity.value < rules.length ∧ (insertAll rules first).run s =
        (.error (.failed .insert .tooManyParameters), { s.opened with rows := s.saved })) ∨
      ∃ start, (rules.map (·.id)).Nodup ∧ Row.unencodable? (rules.map (·.id)) = none ∧
        takenIds s.rows (rules.map (·.id)) = [] ∧ startFor s.rows rules.length first = some start ∧
        (insertAll rules first).run s =
          match (addRows start ((List.range rules.length).zip rules)).run s.opened with
          | (.ok _, s') => (.ok (), { s' with saved := s'.rows })
          | (.error e, s') => (.error e, s') := by
  by_cases distinct : (rules.map (·.id)).Nodup
  · rcases Nat.lt_or_ge s.capacity.value rules.length with many | few
    · exact .inr (.inl ⟨distinct, many, run_insertAll_tooMany usable.medium distinct many⟩)
    cases encodable : Row.unencodable? (rules.map (·.id)) with
    | some text => exact .inl ⟨_, run_insertAll_unencodable usable given distinct few encodable, ⟨nofun, nofun⟩⟩
    | none =>
      by_cases free : takenIds s.rows (rules.map (·.id)) = []
      · cases found : startFor s.rows rules.length first with
        | none => exact .inl ⟨_, run_insertAll_unplaced usable given distinct few encodable free found, ⟨nofun, nofun⟩⟩
        | some start =>
          exact .inr (.inr ⟨start, distinct, rfl, free, rfl,
            run_insertAll_free usable given distinct few encodable free found⟩)
      · exact .inl ⟨_, run_insertAll_taken usable given distinct few encodable free, .taken _⟩
  · exact .inl ⟨_, run_insertAll_repeated usable.medium given distinct, ⟨nofun, nofun⟩⟩

/-- A change rewrites the rows with the id, and says afterwards if there are none. -/
theorem run_change (usable : s.Usable) (attempt : Attempt) (id : Text) {texts : List Text}
    (encodable : Row.unencodable? (texts ++ [id]) = none) (edit : Row → Row) :
    (change attempt id texts edit).run s =
      let rows := s.rows.map fun row => if hasId id row then edit row else row
      (if s.rows.any (hasId id) then .ok () else .error (.notFound id),
        { s.opened with rows, saved := rows }) := by
  unfold change
  simp only [run_bind, run_connect usable.medium, run_useTable usable.opened, encodable, run_get,
    run_modify, run_commit]
  have rows : s.opened.rows = s.rows := rfl
  cases found : s.rows.any (hasId id) <;> simp [rows, found, run_throw, run_pure]

theorem run_change_unencodable (usable : s.Usable) (attempt : Attempt) (id : Text) {texts : List Text}
    {text : Text} (unencodable : Row.unencodable? (texts ++ [id]) = some text) (edit : Row → Row) :
    (change attempt id texts edit).run s = (.error (.unencodable text), s.opened) := by
  unfold change
  simp only [run_bind, run_connect usable.medium, run_useTable usable.opened, unencodable, run_throw]

theorem run_delete (usable : s.Usable) {id : Text} (scalar : isScalar id = true) :
    (delete id).run s =
      let rows := s.rows.filter fun row => !hasId id row
      (.ok (s.rows.any (hasId id)), { s.opened with rows, saved := rows }) := by
  unfold delete
  simp only [run_bind, run_connect usable.medium, run_useTable usable.opened, scalar,
    Bool.not_true, Bool.false_eq_true, if_false, run_get, run_modify, run_commit, run_pure]
  rfl

theorem run_delete_unencodable (usable : s.Usable) {id : Text} (lone : isScalar id = false) :
    (delete id).run s = (.error (.unencodable id), s.opened) := by
  unfold delete
  simp only [run_bind, run_connect usable.medium, run_useTable usable.opened, lone, Bool.not_false, if_true,
    run_throw]

theorem run_prepare (medium : s.medium = .database) :
    prepare.run s = (.ok (), { s.opened with hasTable := true }) := by
  unfold prepare
  have opened : s.opened.medium = .database := medium
  simp [run_bind, run_connect medium, run_get, opened, run_set]

theorem usable_prepared (medium : s.medium = .database) : (prepare.run s).2.Usable := by
  rw [run_prepare medium]
  exact ⟨medium, rfl⟩

theorem run_close (s : Store) :
    close.run s = (.ok (), { s with connected := false, rows := s.saved }) := rfl

theorem run_reopen (s : Store) : reopen.run s = prepare.run (close.run s).2 := by
  rw [reopen, run_bind, run_close]

/-! ## What no action changes -/

theorem capacity_insertAll (usable : s.Usable) (rules : List Rule) (first : Bool) :
    ((insertAll rules first).run s).2.capacity = s.capacity := by
  by_cases given : rules = []
  · subst given
    rfl
  obtain ⟨e, refused, -⟩ | ⟨-, -, refused⟩ | ⟨start, -, -, -, -, ran⟩ := insertAll_cases usable given first
  · rw [refused]
    rfl
  · rw [refused]
    rfl
  · obtain ⟨added, adds⟩ := run_addRows_adds start ((List.range rules.length).zip rules) s.opened
    rw [ran]
    rcases result : (addRows start ((List.range rules.length).zip rules)).run s.opened with ⟨answer, s'⟩
    rw [result] at adds
    dsimp only at adds
    subst adds
    cases answer <;> rfl

theorem capacity_change (usable : s.Usable) (attempt : Attempt) (id : Text) (texts : List Text) (edit : Row → Row) :
    ((change attempt id texts edit).run s).2.capacity = s.capacity := by
  cases encodable : Row.unencodable? (texts ++ [id]) with
  | some text =>
    rw [run_change_unencodable usable attempt id encodable]
    rfl
  | none =>
    rw [run_change usable attempt id encodable]
    rfl

theorem capacity_delete (usable : s.Usable) (id : Text) : ((delete id).run s).2.capacity = s.capacity := by
  cases scalar : isScalar id with
  | false =>
    rw [run_delete_unencodable usable scalar]
    rfl
  | true =>
    rw [run_delete usable scalar]
    rfl

theorem capacity_prepare (medium : s.medium = .database) : (prepare.run s).2.capacity = s.capacity := by
  rw [run_prepare medium]
  rfl

end UrlRules.Store
