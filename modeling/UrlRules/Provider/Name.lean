import UrlRules.Json.Basic
import UrlRules.Text.Blank
import UrlRules.Text.Case

/-!
# Names in provider data

Ids are made of lower-case letters, digits, hyphens and full stops. The pattern of a domain matches
the URLs of its hosts, and the parameters to strip are those entries that are plain names.
-/
namespace UrlRules.Provider

open Text

def isIdCharacter (c : CodePoint) : Bool :=
  isAsciiLower c || isAsciiDigit c || c == 0x2D || c == 0x2E

/-- The characters of a text, in lower case, that ids are made of. -/
def sanitizeId (s : Text) : Text := (lower s).filter isIdCharacter

/-- Characters that have a meaning in patterns. -/
def patternCharacters : Text :=
  Text.of "()[]\x7b\x7d?*+-|^$\\.&~# \t\n\r" ++ [0x0B, 0x0C]

/-- The pattern that matches a text as it is. -/
def escapePattern (s : Text) : Text :=
  s.flatMap fun c => if patternCharacters.contains c then [0x5C, c] else [c]

/-- The pattern of every URL. -/
def anyUrl : Text := ".*"

/-- A domain as patterns have it: in lower case, without blanks at its ends. -/
def bareDomain (domain : Text) : Text := lower (strip domain)

/-- The pattern of the URLs of a domain and the domains below it; of every URL for no domain. -/
def domainPattern (domain : Text) : Text :=
  let bare := bareDomain domain
  if bare.isEmpty then anyUrl
  else
    Text.of "^https?:\\/\\/(?:[a-z0-9-]+\\.)*?" ++ escapePattern bare ++ Text.of "(?=[:/?#]|$)"

/-- Characters that only patterns have, not names of parameters. -/
def metaCharacters : Text := Text.of "\\^$.*+?()[]\x7b\x7d|"

/-- Whether an entry is the name of a parameter: not empty, no path, and no pattern. -/
def isParameterName (s : Text) : Bool :=
  !s.isEmpty && s.head? != some 0x2F && !s.any metaCharacters.contains

/-- The items of a list, each once, in order of first appearance. -/
def firstOccurrences (names : List Text) : List Text :=
  names.foldl (fun kept name => if kept.contains name then kept else kept ++ [name]) []

/-- The names of parameters in a list of entries of any kind. -/
def parameterNames (entries : Json) : List Text :=
  match entries with
  | .list items => firstOccurrences ((items.filterMap Json.asText?).filter isParameterName)
  | _ => []

end UrlRules.Provider
