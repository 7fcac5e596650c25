import UrlRules.Document.Bundle
import UrlRules.Files.Tree
import UrlRules.Json.Reader
import UrlRules.Text.Newline

/-!
# Rule files

Documents in files are UTF-8. Writing makes the directories on the way; a text with lone surrogates
cannot be written and leaves an empty file.
-/
namespace UrlRules.Document

open Text

/-- Why a file cannot be read or written as a document. -/
inductive FileFailure where
  | notJson (path : Path) (fault : Json.ReadFault) (place : Json.Place)
  | tooManyDigits (count : Nat)
  | notUtf8
  | unreadable (error : UrlRules.FileError) (path : Path)
  | unwritable (error : UrlRules.FileError) (path : Path)
  | unencodable
  deriving DecidableEq, Repr

def FileFailure.message : FileFailure → Text
  | .notJson path fault place =>
      Text.of "Invalid JSON in " ++ path.text ++ Text.of ": " ++
        (Json.ReadError.malformed fault place).message
  | .tooManyDigits count => (Json.ReadError.tooManyDigits count).message
  | .notUtf8 => "invalid UTF-8"
  | .unreadable error path =>
      Text.of "Failed to read " ++ path.text ++ Text.of ": " ++ error.message
  | .unwritable error path =>
      Text.of "Failed to write " ++ path.text ++ Text.of ": " ++ error.message
  | .unencodable => "surrogates not allowed"

/-- The text of a file. -/
def readText (files : Files) (path : Path) : Except FileFailure Text :=
  match files.read path with
  | .error e => .error (.unreadable e path)
  | .ok octets =>
      match Utf8.decode? octets with
      | none => .error .notUtf8
      | some s => .ok (withLineFeeds s)

/-- The JSON value in a file. -/
def readJson (files : Files) (path : Path) : Except FileFailure Json := do
  match Json.read (← readText files path) with
  | .ok value => .ok value
  | .error (.malformed fault place) => .error (.notJson path fault place)
  | .error (.tooManyDigits count) => .error (.tooManyDigits count)

/-- The outcome of writing a file, and the files afterwards. -/
abbrev Written := Option FileFailure × Files

/-- Writes a text, with the directories on the way to it. -/
def writeText (files : Files) (path : Path) (text : Text) : Written :=
  match files.makeParent path with
  | .error e => (some (.unwritable e path), files)
  | .ok files =>
      match files.write path [] with
      | .error e => (some (.unwritable e path), files)
      | .ok emptied =>
          match Utf8.encode? text with
          | none => (some .unencodable, emptied)
          | some octets => (none, files.write path octets |>.toOption.getD emptied)

/-- Why a file gives no bundle. -/
inductive LoadError where
  | file (failure : FileFailure)
  | document (error : Error)
  deriving DecidableEq, Repr

/-- The bundle in a file. -/
def loadBundle (files : Files) (path : Path) (source : Option Text) (unique : Bool) :
    Except LoadError Bundle :=
  match readJson files path with
  | .error e => .error (.file e)
  | .ok data =>
      match Bundle.ofJson data path.stem source unique with
      | .error e => .error (.document e)
      | .ok bundle => .ok bundle

def saveBundle (files : Files) (path : Path) (bundle : Bundle) : Written :=
  writeText files path bundle.text

end UrlRules.Document
