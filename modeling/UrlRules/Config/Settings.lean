import UrlRules.Config.Source
import UrlRules.Text.Newline

/-!
# Settings

Settings come from a document with a section each for resolving, storage, bundles and fetching, and a
list of sources. Whatever is absent has its usual value. A relative path is meant from the directory
of the document, and a tilde at the start of a path is a home directory.
-/
namespace UrlRules.Config

open Text

/-- The home directories of the users of a system. -/
structure Homes where
  /-- That of the user who runs the program. -/
  own : Path
  ofUser : Text → Option Path

structure Settings where
  maxRedirects : Int
  database : Path
  bundleOutput : Path
  sourcesDirectory : Path
  bundleName : Text
  bundleDescription : Text
  fetchTimeout : Binary64
  sources : List Source
  deriving Repr, Inhabited

namespace Settings

def usualRedirects : Int := 5
def usualTimeout : Binary64 := Binary64.ofInt 30
def usualName : Text := "Shared Rules"
def usualDescription : Text :=
  "Combined tracking parameter cleaning and redirect unwrapping rules"
def usualDatabase : Text := "~/.local/share/linkpure/rules.db"
def usualOutput : Text := "rules/shared-rules.json"
def usualSourcesDirectory : Text := "rules/sources"

/-- A section of a document. One that is absent or counts as not given is empty. -/
def sectionOf (data : List (Value × Value)) (name : String) : Except Error (List (Value × Value)) :=
  match Value.lookup? data (Text.of name) with
  | none => .ok []
  | some (.mapping entries) => .ok entries
  | some value => if value.isTruthy then .error (.sectionNotMapping (Text.of name)) else .ok []

def redirectsOf (resolver : List (Value × Value)) : Except Error Int :=
  match Value.lookup? resolver "max_redirects" with
  | none => .ok usualRedirects
  | some (.int n) => if 0 < n then .ok n else .error .redirects
  | some _ => .error .redirects

/-- Whether a value is a number that is not zero or below. -/
def isTimeout : Value → Bool
  | .bool b => b
  | .int n => 0 < n
  | .float .notANumber => true
  | .float x => x.isPositive
  | _ => false

def timeoutOf (fetch : List (Value × Value)) : Except Error Value :=
  match Value.lookup? fetch "timeout" with
  | none => .ok (.float usualTimeout)
  | some value => if isTimeout value then .ok value else .error .timeout

/-- A number of seconds; an integer may be too large to be one. -/
def secondsOf : Value → Except Error Binary64
  | .int n =>
      let x := Binary64.ofInt n
      if x.isFinite then .ok x else .error .timeoutTooLarge
  | .float x => .ok x
  | .bool b => .ok (Binary64.ofInt (if b then 1 else 0))
  | _ => .error .timeout

/-- Whether a character has a form in octets where files are named: any but a surrogate, or one of those that
stand for octets beyond ASCII. -/
def hasOctets (c : CodePoint) : Bool := !isSurrogate c || (0xDC80 ≤ c && c ≤ 0xDCFF)

/-- The home directory of the user with a name, which is asked for in octets. -/
def homeOf (homes : Homes) (user : Text) : Except Error Path :=
  if !user.all hasOctets then .error .userUnencodable
  else if user.contains 0 then .error .userWithZero
  else
    match homes.ofUser user with
    | some home => .ok home
    | none => .error .unknownHome

/-- A path whose first name is a tilde is meant from the home directory, and one whose first name is a
tilde and the name of a user from the home directory of that user. -/
def expandHome (homes : Homes) (p : Path) : Except Error Path :=
  match p.isAbsolute, p.names with
  | false, (0x7E :: user) :: names => do
      let home ← if user.isEmpty then pure homes.own else homeOf homes user
      return home.join ⟨[], names⟩
  | _, _ => .ok p

/-- A path in a section, meant from a directory. -/
def pathOf (homes : Homes) (directory : Path) (entries : List (Value × Value)) (name : String)
    (usual : Text) : Except Error Path := do
  let text ← writtenAt entries name usual
  return directory.join (← expandHome homes (Path.ofText text))

/-- The entries of a document. One that is empty has none. -/
def entriesOf : Value → Except Error (List (Value × Value))
  | .null => .ok []
  | .mapping entries => .ok entries
  | _ => .error .rootNotMapping

/-- The settings in a document that stands in a directory. -/
def ofValue (homes : Homes) (directory : Path) (document : Value) : Except Error Settings := do
  let data ← entriesOf document
  let resolver ← sectionOf data "resolver"
  let storage ← sectionOf data "storage"
  let bundle ← sectionOf data "bundle"
  let fetch ← sectionOf data "fetch"
  let maxRedirects ← redirectsOf resolver
  let timeout ← timeoutOf fetch
  let database ← pathOf homes directory storage "db_path" usualDatabase
  let bundleOutput ← pathOf homes directory bundle "output" usualOutput
  let sourcesDirectory ← pathOf homes directory bundle "sources_dir" usualSourcesDirectory
  let bundleName ← writtenAt bundle "name" usualName
  let bundleDescription ← writtenAt bundle "description" usualDescription
  let fetchTimeout ← secondsOf timeout
  let sources ← Source.listOf ((Value.lookup? data "sources").getD (.list []))
  return {
    maxRedirects
    database
    bundleOutput
    sourcesDirectory
    bundleName
    bundleDescription
    fetchTimeout
    sources }

/-- The settings that a text writes. -/
def ofText (homes : Homes) (path : Path) (text : Text) : Except Error Settings := do
  match Yaml.read text with
  | .error e => throw (.document path e)
  | .ok document => ofValue homes path.parent document

/-- The settings in a file. -/
def load (files : Files) (homes : Homes) (path : Path) : Except Error Settings := do
  if !files.contains path then throw (.missing path)
  match files.read path with
  | .error e => throw (.unreadable e)
  | .ok octets =>
      match Utf8.decode? octets with
      | none => throw .notUtf8
      | some text => ofText homes path (withLineFeeds text)

end Settings
end UrlRules.Config
