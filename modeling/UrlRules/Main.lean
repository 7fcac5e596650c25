import UrlRules.Command.Footprint
import UrlRules.Json.Writer
import UrlRules.Store.Document

/-!
# The program

Brings the files that a command may touch into memory, runs the command, and writes back what it has
changed. The rules of a store are kept in its file as a document. No documents are fetched: whatever
is asked for on the web fails.
-/
namespace UrlRules

open Text

def Text.toText (s : Text) : String := String.ofList (s.map Char.ofNat)

namespace Program

/-- What is at a path on disk. -/
def readEntry (path : Path) : IO (Option FileEntry) := do
  match ← (IO.FS.readBinFile path.text.toText).toBaseIO with
  | .ok octets => return some (.file (octets.toList.map UInt8.toNat))
  | .error (.inappropriateType ..) => return some .directory
  | .error _ => return none

/-- Adds an entry to files. -/
def enter (files : Files) (path : Path) : FileEntry → Files
  | .directory => (files.makeDirectory path).toOption.getD files
  | .file octets => (files.write path octets).toOption.getD files

/-- Adds what is on the way to a path. -/
def loadWay (files : Files) : List Path → IO Files
  | [] => return files
  | path :: paths => do
      if files.contains path then loadWay files paths
      else
        match ← readEntry path with
        | some entry => loadWay (enter files path entry) paths
        | none => return files

def loadAll (files : Files) (paths : List Path) : IO Files :=
  paths.foldlM (fun files path => loadWay files (Command.wayTo path)) files

/-- The session for a request, with the store of its settings. -/
def start (around : Surroundings) (request : Command.Request) : IO Session := do
  let files ← loadAll Files.empty (request.config.toList ++ (request.command.map Command.ownPaths).getD [])
  match Command.settingsOf? around files request with
  | none => return Session.ofFiles files
  | some settings =>
      let files ← loadAll files (Command.settingsPaths settings)
      let stored := (files.read settings.database).toOption.bind Utf8.decode?
      match stored.bind Store.ofDocument? with
      | none => return Session.ofFiles files
      | some store =>
          let files := (files.write settings.database Store.header).toOption.getD files
          return { Session.ofFiles files with stores := [(settings.database, store)] }

def pathOf (place : Place) : Path :=
  match place with
  | [0x2F] :: names => ⟨[Path.slash], names⟩
  | names => ⟨[], names⟩

def write (path : Path) (octets : List Utf8.Octet) : IO Unit := do
  IO.FS.createDirAll path.parent.text.toText
  IO.FS.writeBinFile path.text.toText ⟨(octets.map UInt8.ofNat).toArray⟩

/-- Writes what is new in a session. -/
def save (before after : Session) : IO Unit := do
  for (place, entry) in after.files.entries do
    if before.files.at? place ≠ some entry then
      match entry with
      | .directory => IO.FS.createDirAll (pathOf place).text.toText
      | .file octets => write (pathOf place) octets
  for (path, store) in after.stores do
    if Session.isOpened after.files path then
      if let .ok text := store.document then write path (Utf8.encode text)

def showOutput : Output → IO Unit
  | .line s => IO.println s.toText
  | .value data => IO.print data.document.toText
  | .table title columns rows => do
      IO.println title.toText
      for row in columns :: rows do
        IO.println (joinWith (Text.of "  ") row).toText
  | .panel title s => do
      IO.println title.toText
      IO.println s.toText

/-- The home directory of a user in the table of a system's users. -/
def homeIn (table user : Text) : Option Path :=
  (splitOn lineFeed table).findSome? fun line =>
    match splitOn 0x3A line with
    | name :: _ :: _ :: _ :: _ :: home :: _ => if name = user then some (Path.ofText home) else none
    | _ => none

def surroundings : IO Surroundings := do
  let home := (← IO.getEnv "HOME").getD "/"
  let users ← readEntry (Path.ofText "/etc/passwd")
  let table :=
    match users with
    | some (.file octets) => Utf8.decodeLossy octets
    | _ => []
  let seed := (← IO.getRandomBytes 16).toList.flatMap fun b => hexPadded 2 b.toNat
  return {
    homes := ⟨Path.ofText home, homeIn table⟩
    configuration := Path.ofText "configs"
    web := fun _ => .error (.http (.transfer "the network is unreachable"))
    newId := fun n => seed ++ Text.of "-" ++ ofNat n }

/-- Runs the command of a command line, and gives the code to end with. -/
def run (words : List Text) : IO UInt32 := do
  let around ← surroundings
  let session ←
    match Command.read words with
    | .ok request => start around request
    | .error _ => pure (Session.ofFiles Files.empty)
  let (outcome, after) := (Command.run around words).run session
  save session after
  for output in outcome.output do
    showOutput output
  match outcome.ending with
  | .done _ => pure ()
  | .misused e => IO.eprintln e.message.toText
  | .failed e => IO.eprintln e.message.toText
  return outcome.ending.code.toUInt32

end Program
end UrlRules

def main (args : List String) : IO UInt32 := UrlRules.Program.run (args.map UrlRules.Text.of)
