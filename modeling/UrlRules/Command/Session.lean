import UrlRules.Command.Basic
import UrlRules.Command.Error
import UrlRules.Config.Default
import UrlRules.Web.Routes

/-!
# Sessions

Commands work on files, on the stores kept in databases, and on a supply of new ids. They see the web and
the place of the configuration that is used when none is named.
-/
namespace UrlRules

open Text

/-- What commands change. -/
structure Session where
  files : Files
  /-- The stores that were opened, closed again, by the paths of their databases. -/
  stores : List (Path × Store)
  /-- The number of ids that were taken from the supply. -/
  issued : Nat
  /-- How many parameters a statement may have in databases that are new. -/
  capacity : Store.Capacity
  deriving DecidableEq, Repr

/-- What commands see. -/
structure Surroundings where
  homes : Config.Homes
  /-- The directory of the configuration that is used when none is named. -/
  configuration : Path
  web : Web
  newId : Nat → Text

namespace Session

/-- A session before anything was opened. -/
def startAt (capacity : Store.Capacity) (files : Files) : Session := ⟨files, [], 0, capacity⟩

/-- The same with databases of the usual capacity. -/
def ofFiles (files : Files) : Session := startAt .usual files

/-- Whether the file at a path is a database that was opened, and not written over since. -/
def isOpened (files : Files) (path : Path) : Bool :=
  match files.read path with
  | .ok octets => octets == Store.header
  | .error _ => false

/-- The store at a path, not yet connected. -/
def storeAt (s : Session) (path : Path) : Store :=
  match (s.stores.find? (·.1 == path)).filter fun _ => isOpened s.files path with
  | some (_, store) => { store with medium := Store.mediumAt s.files path }
  | none => .emptyAt s.capacity s.files path

/-- The files once a database was opened at a path: it is there, and so is its directory. -/
def filesAfterOpening (files : Files) (path : Path) : Files :=
  match files.makeParent path with
  | .error _ => files
  | .ok files =>
      match Store.mediumOf (files.find path) with
      | .database => (files.write path Store.header).toOption.getD files
      | _ => files

/-- Puts a store back that was opened at a path. -/
def keep (s : Session) (path : Path) (store : Store) : Session :=
  { s with
    files := filesAfterOpening s.files path
    stores := (path, store) :: s.stores.filter (·.1 != path) }

end Session

namespace Command

/-- Work on a session that may stop with an error; what it has changed by then stays. -/
abbrev Work (α : Type) := ExceptT Error (StateM Session) α

namespace Work

/-- A result that is no change. -/
def lift {ε α : Type} (error : ε → Error) : Except ε α → Work α
  | .ok a => return a
  | .error e => throw (error e)

/-- The settings of a command line. -/
def settings (around : Surroundings) (config : Option Path) : Work Config.Settings := do
  let files := (← get).files
  lift .config <|
    match config with
    | some path => Config.Settings.load files around.homes path
    | none => Config.Settings.usual around.homes around.configuration

/-- Opens the store at a path for an action, and closes it again. -/
def withStore {α : Type} (path : Path) (action : Store.Action α) : Work α := do
  let session ← get
  let opened : Store.Action α := do
    Store.prepare
    action
  let (result, store) := opened.run (session.storeAt path)
  let (_, store) := Store.close.run store
  set (session.keep path store)
  lift .store result

/-- The bundle in a file with rules. -/
def rulesIn (path : Path) : Work (List Rule) := do
  return (← lift Error.ofLoad (Document.loadBundle (← get).files path none true)).rules

/-- The next id of the supply. -/
def newId (around : Surroundings) : Work Text := do
  let session ← get
  set { session with issued := session.issued + 1 }
  return around.newId session.issued

/-- A step of the pipeline. Its warnings are not shown. -/
def pipeline {α : Type} (action : Pipeline.Action α) : Work α := do
  let session ← get
  let (result, workspace) := action.run ⟨session.files, []⟩
  set { session with files := workspace.files }
  lift .pipeline result

end Work
end Command
end UrlRules
