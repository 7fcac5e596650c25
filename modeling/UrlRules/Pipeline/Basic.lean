import UrlRules.Config.Settings
import UrlRules.Document.File
import UrlRules.Merge.Input
import UrlRules.Provider.Normalize
import UrlRules.Web.Fetch

/-!
# Building the shared bundle

The pipeline fills the files of remote sources from the web, and merges the files of all sources into
one bundle. Its steps change files and leave warnings; what they have changed by the time they stop
with an error stays.
-/
namespace UrlRules

open Text

namespace Pipeline

/-- Why a step stops. -/
inductive Error where
  | fetch (error : Web.FetchError)
  /-- The URL of a source is no text. -/
  | urlNotText
  | provider (error : Provider.Error)
  | load (error : Document.LoadError)
  | save (failure : Document.FileFailure)
  | missingFile (name : Text) (path : Path)
  | merge (error : Merge.Error)
  deriving DecidableEq, Repr

/-- What the steps change. -/
structure Workspace where
  files : Files
  /-- The warnings so far, in order. -/
  warnings : List Text
  deriving DecidableEq, Repr

abbrev Action (α : Type) := ExceptT Error (StateM Workspace) α

def warn (messages : List Text) : Action Unit :=
  modify fun w => { w with warnings := w.warnings ++ messages }

/-- The file of a source. -/
def pathOf (settings : Config.Settings) (source : Config.Source) : Path :=
  settings.sourcesDirectory.join (Path.ofText source.file)

def save (path : Path) (bundle : Bundle) : Action Unit := do
  let (failure, files) := Document.saveBundle (← get).files path bundle
  modify fun w => { w with files }
  match failure with
  | none => return
  | some e => throw (.save e)

/-- The bundle of the rules of a source. -/
def bundleOf (source : Config.Source) (rules : List Rule) (origin : Json) : Bundle :=
  Bundle.make (source.name ++ Text.of " rules") source.description rules origin

end Pipeline
end UrlRules
