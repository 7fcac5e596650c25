import UrlRules.Pipeline.Basic

/-!
# Downloading sources

All remote sources are fetched before any file is written. Then the sources are handled in their order:
the file of a remote one is written anew, and a missing file of one maintained by hand is created
without rules.
-/
namespace UrlRules.Pipeline

open Text

/-- What a download has written. -/
structure Report where
  /-- The names of remote sources with the number of their rules. -/
  written : List (Text × Nat)
  /-- The names of the sources whose files were created. -/
  created : List Text
  deriving DecidableEq, Repr

/-- The document of a remote source. -/
def fetchSource (web : Web) (source : Config.Source) : Except Error Text :=
  match source.url with
  | .text url =>
      match web.fetch url with
      | .ok text => .ok text
      | .error e => .error (.fetch e)
  | _ => .error .urlNotText

/-- The documents of all remote sources by name. Of those with one name the last stays. -/
def fetchAll (web : Web) (sources : List Config.Source) : Except Error (List (Text × Text)) := do
  let texts ← (sources.filter (·.isRemote)).mapM fun source => do
    return (source.name, ← fetchSource web source)
  return Json.ofWrites texts

/-- The rules in the document of a remote source. -/
def normalize (source : Config.Source) (text : Text) : Except Provider.Failure Provider.Normalized :=
  let kind := source.provider.getD []
  match Provider.ofName? kind with
  | none => .error (Provider.Error.unknown kind).atOnce
  | some provider => provider.normalizeText text

/-- Creates the file of a source that is maintained by hand, if it is not there. -/
def createTemplate (settings : Config.Settings) (report : Report) (source : Config.Source) :
    Action Report := do
  let path := pathOf settings source
  if (← get).files.contains path then return report
  save path (bundleOf source [] .null)
  return { report with created := report.created ++ [source.name] }

/-- Writes the file of a remote source. -/
def writeRemote (settings : Config.Settings) (texts : List (Text × Text)) (report : Report)
    (source : Config.Source) : Action Report := do
  match normalize source ((Json.field? texts source.name).getD []) with
  | .error f =>
      warn f.warnings
      throw (.provider f.error)
  | .ok normalized =>
      warn normalized.warnings
      save (pathOf settings source) (bundleOf source normalized.rules (originOf source.url))
      return { report with written := Json.setField report.written source.name normalized.rules.length }
where
  originOf : Value → Json
    | .text url => .text url
    | _ => .null

def handle (settings : Config.Settings) (texts : List (Text × Text)) (report : Report)
    (source : Config.Source) : Action Report :=
  if source.isRemote then writeRemote settings texts report source
  else createTemplate settings report source

/-- Handles sources in their order. -/
def handleAll (settings : Config.Settings) (texts : List (Text × Text)) :
    Report → List Config.Source → Action Report
  | report, [] => return report
  | report, source :: sources => do
      handleAll settings texts (← handle settings texts report source) sources

/-- Fetches all remote sources and writes their files. -/
def download (settings : Config.Settings) (web : Web) : Action Report :=
  match fetchAll web settings.sources with
  | .error e => throw e
  | .ok texts => handleAll settings texts ⟨[], []⟩ settings.sources

end UrlRules.Pipeline
