import UrlRules.Files.Tree
import UrlRules.Store.Row

/-!
# Why the store refuses
-/
namespace UrlRules.Store

open Text

/-- What was to be done. -/
inductive Attempt where
  | prepare
  | list
  | retrieve (id : Text)
  | insert
  | update (id : Text)
  | toggle (id : Text)
  | delete (id : Text)
  deriving DecidableEq, Repr

/-- Why the database does not do it. -/
inductive Reason where
  | noTable
  | notDatabase
  | cannotOpen
  /-- A statement would have more parameters than the database takes. -/
  | tooManyParameters
  | notJson (error : Json.ReadError)
  | pattern (error : Pattern.Error)
  | unencodable (text : Text)
  deriving DecidableEq, Repr

inductive Error where
  | failed (attempt : Attempt) (reason : Reason)
  /-- There is no connection yet and none can be made. -/
  | unreachable (reason : Reason)
  /-- The directory of the database cannot be made. -/
  | blocked (error : FileError)
  | repeatedIds
  | taken (ids : List Text)
  | notFound (id : Text)
  | row (error : RowError)
  | unencodable (text : Text)
  | positionTooLarge
  | positionNotNumber
  /-- A cell is empty that has to be filled, or an id is there twice. -/
  | constraint
  deriving DecidableEq, Repr

def Attempt.text : Attempt → Text
  | .prepare => "initialize rule store"
  | .list => "list rules"
  | .retrieve id => Text.of "retrieve rule " ++ id
  | .insert => "insert rules"
  | .update id => Text.of "update rule " ++ id
  | .toggle id => Text.of "toggle rule " ++ id
  | .delete id => Text.of "delete rule " ++ id

/-- Tells the first run of lone surrogates in a text. -/
def unencodableText (s : Text) : Text :=
  let first := (s.takeWhile fun c => !isSurrogate c).length
  let run := (s.drop first).takeWhile isSurrogate
  let place :=
    if run.length = 1 then
      Text.of "character '" ++ run.flatMap numericEscape ++ Text.of "' in position " ++ ofNat first
    else
      Text.of "characters in position " ++ ofNat first ++ Text.of "-" ++
        ofNat (first + run.length - 1)
  Text.of "'utf-8' codec can't encode " ++ place ++ Text.of ": surrogates not allowed"

def Reason.text : Reason → Text
  | .noTable => "no such table: rules"
  | .notDatabase => "file is not a database"
  | .cannotOpen => "unable to open database file"
  | .tooManyParameters => "too many SQL variables"
  | .notJson error => error.message
  | .pattern error => error.message
  | .unencodable text => unencodableText text

def Error.message : Error → Text
  | .failed attempt reason => Text.of "Failed to " ++ attempt.text ++ Text.of ": " ++ reason.text
  | .unreachable reason => reason.text
  | .blocked error => error.message
  | .repeatedIds => "Rules to insert contain repeated ids"
  | .taken ids => Text.of "Rule id already exists: " ++ joinWith (Text.of ", ") ids
  | .notFound id => Text.of "Rule not found: " ++ id
  | .row (.rule error) => error.message
  | .row _ => "not a rule"
  | .unencodable text => unencodableText text
  | .positionTooLarge => "a position is too large"
  | .positionNotNumber => "position is not a number"
  | .constraint => "constraint failed"

end UrlRules.Store
