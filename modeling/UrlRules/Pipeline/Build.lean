import UrlRules.Pipeline.Download

/-!
# Merging the files of sources

The files of all sources are read in the order of priority and merged, and the bundle is written. A file
may repeat ids; the bundle does not.
-/
namespace UrlRules.Pipeline

open Text

def missingWarning (source : Config.Source) (path : Path) : Text :=
  Text.of "No rule file for " ++ source.name ++ Text.of " at " ++ path.text ++
    Text.of ", treating as empty"

/-- The rules in the file of a source. One maintained by hand may have no file. -/
def loadSource (settings : Config.Settings) (source : Config.Source) : Action RuleSource := do
  let path := pathOf settings source
  let files := (← get).files
  if files.contains path then
    match Document.loadBundle files path (some source.name) false with
    | .error e => throw (.load e)
    | .ok bundle => return ⟨source.name, bundle.rules⟩
  else if source.isRemote then throw (.missingFile source.name path)
  else
    warn [missingWarning source path]
    return ⟨source.name, []⟩

/-- Reads the files of sources in their order. -/
def loadAll (settings : Config.Settings) : List Config.Source → Action (List RuleSource)
  | [] => return []
  | source :: sources => do
      let loaded ← loadSource settings source
      return loaded :: (← loadAll settings sources)

/-- Reads the files of all sources. -/
def load (settings : Config.Settings) : Action (List RuleSource) :=
  loadAll settings settings.sources

/-- A source as it is given to a merge. -/
def inputOf (source : RuleSource) : Merge.Input :=
  .source (.text source.name) (.entries (source.rules.map .inl))

/-- Merges the files of all sources and writes the bundle. -/
def merge (settings : Config.Settings) : Action MergeResult := do
  let sources ← load settings
  match Merge.mergeInputs true (sources.map inputOf) with
  | .error e => throw (.merge e)
  | .ok result =>
      save settings.bundleOutput
        (Bundle.make settings.bundleName settings.bundleDescription result.rules .null)
      return result

/-- Downloads all sources and merges their files. -/
def build (settings : Config.Settings) (web : Web) : Action MergeResult := do
  discard <| download settings web
  merge settings

def Error.message : Error → Text
  | .fetch e => e.message
  | .urlNotText => "the URL is no text"
  | .provider e => e.message
  | .load (.file e) => e.message
  | .load (.document e) => e.message
  | .save e => e.message
  | .missingFile name path =>
      Text.of "Rule file for " ++ name ++ Text.of " not found: " ++ path.text ++
        Text.of " (run fetch first)"
  | .merge e => e.message

end UrlRules.Pipeline
