import UrlRules.Command.Session
import UrlRules.Proofs.Files.Tree
import UrlRules.Proofs.Store.Reachable

/-!
# Stores in sessions

Work on the store at a path opens it, and closes it again (`withStore_eq`). The store that is opened at that path
next is the one that was closed (`storeAt_keep`). `Session.ask` is what a freshly opened store answers.
-/
namespace UrlRules

open Text

/-! ## Opening a database -/

namespace Store

variable {files files' made : Files} {path : Path}

/-- Making the directory of a path once more changes nothing. -/
theorem makeParent_of_stands (parent : files.Stands path.parent .directory) : files.makeParent path = .ok files :=
  Files.makeDirectories_of_stands parent _

/-- A database that was opened stands in its directory. -/
structure Placed (files : Files) (path : Path) : Prop where
  parent : files.Stands path.parent .directory
  file : files.Stands path (.file header)

theorem Placed.changes {places : List Place} (placed : Placed files path) (changes : Files.Changes places files files')
    (apart : path.place ∉ places) : Placed files' path :=
  ⟨placed.parent.directory changes, placed.file.changes changes apart⟩

theorem Placed.mediumAt (placed : Placed files path) : mediumAt files path = .database := by
  rw [Store.mediumAt, makeParent_of_stands placed.parent]
  simp [Files.find_ok_iff.mpr placed.file, mediumOf]

theorem Placed.isOpened (placed : Placed files path) : Session.isOpened files path = true := by
  simp [Session.isOpened, Files.read_of_stands placed.file]

/-- Opening a database leaves one in its directory. -/
theorem placed_afterOpening (database : Store.mediumAt files path = .database) :
    Placed (Session.filesAfterOpening files path) path := by
  unfold Store.mediumAt at database
  unfold Session.filesAfterOpening
  cases parent : files.makeParent path with
  | error e => simp [parent] at database
  | ok made =>
    simp only [parent] at database ⊢
    have directory := Files.stands_of_makeDirectories parent
    have free : ¬made.Stands path .directory := fun stands => by
      simp [Files.find_ok_iff.mpr stands, mediumOf] at database
    obtain ⟨written, wrote⟩ := Files.exists_write_of_parent directory free header
    obtain ⟨changes, stands⟩ := Files.write_ok wrote
    simp only [database, wrote, Except.toOption, Option.getD_some]
    exact ⟨directory.directory changes, stands⟩

/-- What stands at a path is the same after it was opened. -/
theorem mediumAt_afterOpening (files : Files) (path : Path) :
    Store.mediumAt (Session.filesAfterOpening files path) path = Store.mediumAt files path := by
  by_cases database : Store.mediumAt files path = .database
  · rw [(placed_afterOpening database).mediumAt, database]
  · unfold Session.filesAfterOpening
    cases parent : files.makeParent path with
    | error e => rfl
    | ok made =>
      have other : mediumOf (made.find path) ≠ .database := by simpa [Store.mediumAt, parent] using database
      have again : made.makeParent path = .ok made :=
        makeParent_of_stands (Files.stands_of_makeDirectories parent)
      dsimp only
      split
      next found => exact absurd found other
      next => simp [Store.mediumAt, parent, again]

end Store

namespace Session

variable {α : Type} {session session' : Session} {path : Path} {store : Store}

/-- The store at a path is the one that is kept for it, or a new one; its medium is what stands there. -/
theorem storeAt_cases (session : Session) (path : Path) :
    (∃ kept, session.stores.find? (·.1 == path) = some kept ∧
        session.storeAt path = { kept.2 with medium := Store.mediumAt session.files path }) ∨
      session.storeAt path = .emptyAt session.capacity session.files path := by
  unfold storeAt
  split
  next path' store found => exact .inl ⟨_, (Option.filter_eq_some_iff.mp found).1, rfl⟩
  next => exact .inr rfl

theorem storeAt_kept {kept : Path × Store} (found : session.stores.find? (·.1 == path) = some kept)
    (placed : Store.Placed session.files path) (medium : kept.2.medium = .database) :
    session.storeAt path = kept.2 := by
  obtain ⟨path', ⟨medium', connected, hasTable, rows, saved⟩⟩ := kept
  obtain rfl : medium' = .database := medium
  simp [storeAt, found, placed.isOpened, placed.mediumAt, Option.filter]

theorem find?_keep (session : Session) (path : Path) (store : Store) :
    (session.keep path store).stores.find? (·.1 == path) = some (path, store) := by
  simp [Session.keep]

theorem storeAt_keep (database : Store.mediumAt session.files path = .database) (medium : store.medium = .database) :
    (session.keep path store).storeAt path = store :=
  storeAt_kept (find?_keep session path store) (Store.placed_afterOpening database) medium

/-- What a freshly opened store at a path answers. -/
def ask (session : Session) (path : Path) (action : Store.Action α) : Except Store.Error α :=
  ((do Store.prepare; action : Store.Action α).run (session.storeAt path)).1

/-- The store that is kept for a path, if there is one, is one that operations lead to, closed again. -/
def Sound (session : Session) (path : Path) : Prop :=
  ∀ kept, session.stores.find? (·.1 == path) = some kept → kept.2.Reachable ∧ kept.2.connected = false

/-- Before it is opened, a store is one that operations lead to, or one where nothing was kept. -/
theorem Sound.storeAt (sound : session.Sound path) (database : Store.mediumAt session.files path = .database) :
    (session.storeAt path).Reachable ∧ (session.storeAt path).connected = false ∨
      session.storeAt path = .emptyAt session.capacity session.files path := by
  refine (storeAt_cases session path).imp_left fun ⟨kept, found, same⟩ => ?_
  obtain ⟨reachable, closed⟩ := sound kept found
  have whole : { kept.2 with medium := Store.mediumAt session.files path } = kept.2 := by
    rw [database, ← reachable.sound.usable.medium]
  rw [same, whole]
  exact ⟨reachable, closed⟩

theorem Sound.unconnected (sound : session.Sound path) : (session.storeAt path).connected = false := by
  rcases storeAt_cases session path with ⟨kept, found, same⟩ | same
  · rw [same]
    exact (sound kept found).2
  · rw [same]
    rfl

theorem storeAt_medium (session : Session) (path : Path) :
    (session.storeAt path).medium = Store.mediumAt session.files path := by
  rcases storeAt_cases session path with ⟨kept, -, same⟩ | same
  · rw [same]
  · rw [same, Store.emptyAt]

/-- A store can be opened where a database can be. -/
theorem Sound.database (sound : session.Sound path)
    (opened : (Store.prepare.run (session.storeAt path)).1 = .ok ()) :
    Store.mediumAt session.files path = .database := by
  rw [← storeAt_medium]
  exact Store.medium_of_initialized opened sound.unconnected

/-- A store that can be opened keeps a list. -/
theorem Sound.prepared (sound : session.Sound path)
    (opened : (Store.prepare.run (session.storeAt path)).1 = .ok ()) :
    Store.mediumAt session.files path = .database ∧
      ∃ rules, (Store.prepare.run (session.storeAt path)).2.Keeps rules := by
  have database := sound.database opened
  refine ⟨database, ?_⟩
  rcases sound.storeAt database with ⟨reachable, closed⟩ | new
  · obtain ⟨rules, keeps⟩ := reachable.keeps closed
    exact ⟨rules, (Store.prepare_of_keeps keeps).2⟩
  · rw [new] at opened ⊢
    exact ⟨[], Store.keeps_nil opened⟩

/-- A store that is opened is one that operations lead to. -/
theorem Sound.reachable (sound : session.Sound path)
    (opened : (Store.prepare.run (session.storeAt path)).1 = .ok ()) :
    (Store.prepare.run (session.storeAt path)).2.Reachable := by
  rcases sound.storeAt (sound.database opened) with ⟨reachable, -⟩ | new
  · exact reachable.prepared
  · rw [new] at opened ⊢
    exact .start opened

/-- A store that operations lead to is closed and put back. -/
theorem sound_keep (session : Session) (path : Path) (reachable : store.Reachable) :
    (session.keep path (Store.close.run store).2).Sound path := by
  intro kept found
  rw [find?_keep] at found
  obtain rfl := Option.some.inj found
  exact ⟨reachable.closed, rfl⟩

/-- An operation on a store that was opened, and is closed again, leaves one that operations lead to. -/
theorem Sound.operate (sound : session.Sound path) (opened : (Store.prepare.run (session.storeAt path)).1 = .ok ())
    {operation : Store.Operation} (written : operation.Written) :
    (session.keep path (Store.close.run
      (operation.onStore (Store.prepare.run (session.storeAt path)).2).2).2).Sound path :=
  sound_keep session path (.operate (sound.reachable opened) written)

/-- Asking an opened store. -/
theorem ask_of_prepared (opened : (Store.prepare.run (session.storeAt path)).1 = .ok ()) (action : Store.Action α) :
    session.ask path action = (action.run (Store.prepare.run (session.storeAt path)).2).1 := by
  rw [ask, run_bind_of_ok opened]

/-- A store that answers has been opened. -/
theorem prepared_of_ask {action : Store.Action α} {answer : α} (asked : session.ask path action = .ok answer) :
    (Store.prepare.run (session.storeAt path)).1 = .ok () := by
  obtain ⟨_, between, first, -⟩ := ok_of_bind (Prod.fst_eq_iff.mp asked)
  rw [first]

/-- What a store answers that keeps a list and is put back. -/
theorem ask_keep {rules : List Rule} (database : Store.mediumAt session.files path = .database)
    (keeps : store.Keeps rules) :
    (session.keep path store).ask path Store.list = .ok rules ∧
      (session.keep path store).ask path Store.enabled = .ok (rules.filter (·.enabled)) := by
  obtain ⟨entries, represents, -⟩ := id keeps
  have same := storeAt_keep database represents.usable.medium
  obtain ⟨opened, prepared⟩ := Store.prepare_of_keeps keeps
  rw [← same] at opened prepared
  rw [ask_of_prepared opened, ask_of_prepared opened]
  exact ⟨Store.list_of_keeps prepared, Store.enabled_of_keeps prepared⟩

end Session

namespace Session

variable {α : Type} {session : Session} {path : Path}

/-- A store that was opened answers alike whatever the files are, if its database stands where it stood. -/
theorem ask_of_placed {files : Files} {kept : Path × Store} (found : session.stores.find? (·.1 == path) = some kept)
    (medium : kept.2.medium = .database) (placed : Store.Placed session.files path) (again : Store.Placed files path)
    (action : Store.Action α) : ({ session with files } : Session).ask path action = session.ask path action := by
  have same : ({ session with files } : Session).storeAt path = kept.2 := storeAt_kept found again medium
  rw [ask, ask, same, storeAt_kept found placed medium]

end Session

namespace Command

variable {α : Type} {session session' : Session} {path : Path} {action : Store.Action α}

theorem run_lift {ε : Type} (error : ε → Error) (result : Except ε α) (session : Session) :
    (Work.lift error result).run session = (result.mapError error, session) := by
  cases result <;> rfl

/-- The settings are read from the files alone. -/
theorem settings_congr {around : Surroundings} {config : Option Path} (same : session.files = session'.files) :
    ((Work.settings around config).run session).1 = ((Work.settings around config).run session').1 := by
  unfold Work.settings
  simp only [run_bind, run_get, run_lift, same]

/-- An action on the store at a path, which is opened for it. -/
def opening (session : Session) (path : Path) (action : Store.Action α) : Except Store.Error α × Store :=
  (do Store.prepare; action : Store.Action α).run (session.storeAt path)

/-- Work on a store opens it, and closes it again. -/
theorem withStore_eq (path : Path) (action : Store.Action α) (session : Session) :
    (Work.withStore path action).run session =
      ((opening session path action).1.mapError .store,
        session.keep path (Store.close.run (opening session path action).2).2) := by
  rcases ran : opening session path action with ⟨result, store⟩
  unfold opening at ran
  unfold Work.withStore
  rw [run_bind, run_get]
  dsimp only
  rw [ran]
  cases result <;> rfl

/-- Work on a store that can be opened. -/
theorem run_withStore (opened : (Store.prepare.run (session.storeAt path)).1 = .ok ()) (action : Store.Action α) :
    (Work.withStore path action).run session =
      let ran := action.run (Store.prepare.run (session.storeAt path)).2
      (ran.1.mapError .store, session.keep path (Store.close.run ran.2).2) := by
  rw [withStore_eq, opening, run_bind_of_ok opened]

/-- Work that succeeds has opened the store. -/
theorem withStore_ok {answer : α} (ran : (Work.withStore path action).run session = (.ok answer, session')) :
    (Store.prepare.run (session.storeAt path)).1 = .ok () ∧
      ∃ s, action.run (Store.prepare.run (session.storeAt path)).2 = (.ok answer, s) ∧
        session' = session.keep path (Store.close.run s).2 := by
  have opened : (Store.prepare.run (session.storeAt path)).1 = .ok () := by
    cases first : (Store.prepare.run (session.storeAt path)).1 with
    | ok _ => rfl
    | error e =>
      rw [withStore_eq, opening, run_bind_of_error first] at ran
      cases (Prod.mk.inj ran).1
  refine ⟨opened, ?_⟩
  rw [run_withStore opened] at ran
  rcases done : action.run (Store.prepare.run (session.storeAt path)).2 with ⟨result, s⟩
  rw [done] at ran
  cases result with
  | error e => cases ran
  | ok answer' =>
    cases ran
    exact ⟨s, rfl, rfl⟩

end Command
end UrlRules
