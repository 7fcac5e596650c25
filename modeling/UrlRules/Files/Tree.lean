import UrlRules.Files.Path
import UrlRules.Text.Quoted
import UrlRules.Text.Utf8

/-!
# Files

A tree of directories and files as a program sees it from its working directory. A path is followed
name by name; every name but the last has to be a directory that is there.
-/
namespace UrlRules

open Text

inductive FileFault where
  | notFound
  | exists
  | notDirectory
  | isDirectory
  deriving DecidableEq, Repr

/-- A fault of an operation on a path. -/
structure FileError where
  fault : FileFault
  path : Path
  deriving DecidableEq, Repr

namespace FileError

def number : FileFault → Nat
  | .notFound => 2
  | .exists => 17
  | .notDirectory => 20
  | .isDirectory => 21

def description : FileFault → Text
  | .notFound => "No such file or directory"
  | .exists => "File exists"
  | .notDirectory => "Not a directory"
  | .isDirectory => "Is a directory"

def message (e : FileError) : Text :=
  Text.of "[Errno " ++ ofNat (number e.fault) ++ Text.of "] " ++ description e.fault ++
    Text.of ": " ++ quoted e.path.text

end FileError

inductive FileEntry where
  | directory
  | file (octets : List Utf8.Octet)
  deriving DecidableEq, Repr

/-- The names on the way to a place: from the working directory, or from the root if the first name
is a slash. Names that go up from the working directory stand first. -/
abbrev Place := List Text

structure Files where
  entries : List (Place × FileEntry)
  deriving DecidableEq, Repr

namespace Files

def empty : Files := ⟨[]⟩

def up : Text := [Path.dot, Path.dot]

/-- The place one level up. -/
def above (place : Place) : Place :=
  if place.all (· == up) then place ++ [up]
  else if place = [[Path.slash]] then place
  else place.dropLast

/-- What stands at a place. The working directory, those above it and the root are always there. -/
def at? (files : Files) (place : Place) : Option FileEntry :=
  if place.all (· == up) ∨ place = [[Path.slash]] then some .directory
  else (files.entries.find? (·.1 == place)).map (·.2)

/-- Follows names from a directory. The last one need not be there. -/
def follow (files : Files) (path : Path) : Place → List Text → Except FileError Place
  | place, [] => .ok place
  | place, name :: names =>
      match files.at? place with
      | none => .error ⟨.notFound, path⟩
      | some (.file _) => .error ⟨.notDirectory, path⟩
      | some .directory =>
          follow files path (if name = up then above place else place ++ [name]) names

def placeOf (files : Files) (path : Path) : Except FileError Place :=
  files.follow path (if path.isAbsolute then [[Path.slash]] else []) path.names

/-- What a path leads to. -/
def find (files : Files) (path : Path) : Except FileError FileEntry := do
  match files.at? (← files.placeOf path) with
  | some entry => .ok entry
  | none => .error ⟨.notFound, path⟩

def contains (files : Files) (path : Path) : Bool :=
  match files.find path with
  | .ok _ => true
  | .error _ => false

def isDirectory (files : Files) (path : Path) : Bool :=
  match files.find path with
  | .ok .directory => true
  | _ => false

/-- Puts an entry at a place: instead of the one there, or after all others. -/
def put (files : Files) (place : Place) (entry : FileEntry) : Files :=
  if files.entries.any (·.1 == place) then
    ⟨files.entries.map fun (p, e) => if p = place then (p, entry) else (p, e)⟩
  else ⟨files.entries ++ [(place, entry)]⟩

def read (files : Files) (path : Path) : Except FileError (List Utf8.Octet) := do
  match ← files.find path with
  | .file octets => .ok octets
  | .directory => .error ⟨.isDirectory, path⟩

/-- Writes a file, whether it is there or not. -/
def write (files : Files) (path : Path) (octets : List Utf8.Octet) : Except FileError Files := do
  let place ← files.placeOf path
  match files.at? place with
  | some .directory => .error ⟨.isDirectory, path⟩
  | _ => .ok (files.put place (.file octets))

/-- Makes one directory. -/
def makeDirectory (files : Files) (path : Path) : Except FileError Files := do
  let place ← files.placeOf path
  match files.at? place with
  | some _ => .error ⟨.exists, path⟩
  | none => .ok (files.put place .directory)

/-- Makes a directory and those on the way to it, as far as they are not there. `levels` bounds the
number of names. -/
def makeDirectories : Nat → Files → Path → Except FileError Files
  | levels, files, path =>
      match files.makeDirectory path with
      | .ok files => .ok files
      | .error ⟨.notFound, p⟩ =>
          match levels with
          | 0 => .error ⟨.notFound, p⟩
          | levels + 1 => do
              let files ← makeDirectories levels files path.parent
              match files.makeDirectory path with
              | .ok files => .ok files
              | .error e => if files.isDirectory path then .ok files else .error e
      | .error e => if files.isDirectory path then .ok files else .error e

/-- Makes the directory of a path. -/
def makeParent (files : Files) (path : Path) : Except FileError Files :=
  makeDirectories path.names.length files path.parent

end Files
end UrlRules
