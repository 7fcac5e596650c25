import UrlRules.Command.Run

/-!
# The files of a command

All paths that a command may read or write.
-/
namespace UrlRules.Command

/-- The paths that a command names itself. -/
def ownPaths : Command → List Path
  | .check _ rules _ _ => rules.toList
  | .importFile path _ | .exportFile path => [path]
  | .verify rules => rules.toList
  | _ => []

/-- The paths that settings name. -/
def settingsPaths (settings : Config.Settings) : List Path :=
  settings.database :: settings.bundleOutput :: settings.sources.map (Pipeline.pathOf settings)

/-- The directories on the way to a path, and the path itself, from the outermost on. -/
def wayTo (path : Path) : List Path :=
  (List.range (path.names.length + 1)).map fun n => ⟨path.root, path.names.take n⟩

/-- The settings that a request names, if they can be read. -/
def settingsOf? (around : Surroundings) (files : Files) (request : Request) :
    Option Config.Settings :=
  ((Work.settings around request.config).run (Session.ofFiles files)).1.toOption

end UrlRules.Command
