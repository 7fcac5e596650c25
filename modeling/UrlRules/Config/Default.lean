import UrlRules.Config.Settings

/-!
# The configuration that is used when none is named
-/
namespace UrlRules.Config

open Text

/-- The lines of the configuration. -/
def usualLines : List String := [
  "# LinkPure settings",
  "#",
  "# Paths are relative to this file unless absolute.",
  "",
  "resolver:",
  "  # Hard cap on the number of rewrites followed for a single URL check",
  "  max_redirects: 5",
  "",
  "storage:",
  "  db_path: ~/.local/share/linkpure/rules.db",
  "",
  "fetch:",
  "  timeout: 30",
  "",
  "bundle:",
  "  output: ../rules/shared-rules.json",
  "  sources_dir: ../rules/sources",
  "  name: Shared Rules",
  "  description: Combined tracking parameter cleaning and redirect unwrapping rules",
  "",
  "# Priority order, highest first. On id collisions the earlier source wins.",
  "sources:",
  "  - name: custom",
  "    file: custom-rules.json",
  "    description: Manually maintained custom rules",
  "",
  "  - name: linkumori",
  "    provider: linkumori",
  "    url: https://raw.githubusercontent.com/Linkumori/Linkumori-Extension/fdea9e3677d963320cb0ccf2c1096b5534f4111b/common/rules.js",
  "    file: linkumori-rules.json",
  "    description: Rules imported from Linkumori Extension",
  "",
  "  - name: clearurls",
  "    provider: clearurls",
  "    url: https://rules2.clearurls.xyz/data.minify.json",
  "    file: clearurls-rules.json",
  "    description: Rules imported from ClearURLs project"]

def usualText : Text := usualLines.flatMap fun line => Text.of line ++ [lineFeed]

/-- The name of the configuration's file in its directory. -/
def usualFile : Text := "linkpure.yaml"

/-- Where the configuration stands in a directory. -/
def usualPath (directory : Path) : Path := directory.join (Path.ofText usualFile)

/-- The settings of a configuration that stands in a directory. -/
def Settings.usual (homes : Homes) (directory : Path) : Except Error Settings :=
  Settings.ofText homes (usualPath directory) usualText

end UrlRules.Config
