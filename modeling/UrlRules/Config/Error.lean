import UrlRules.Files.Tree
import UrlRules.Provider.Basic
import UrlRules.Yaml.Build

/-!
# Why a configuration is refused
-/
namespace UrlRules.Config

open Text

inductive Error where
  | missing (path : Path)
  | unreadable (error : FileError)
  | notUtf8
  | document (path : Path) (error : Yaml.Error)
  | rootNotMapping
  | sectionNotMapping (name : Text)
  | redirects
  | timeout
  | timeoutTooLarge
  | integerTooLong
  | unknownHome
  /-- The name of a user has no form in octets. -/
  | userUnencodable
  | userWithZero
  | sourcesNotList
  | sourceNotMapping (index : Nat)
  | missingField (name : Text) (index : Nat)
  | duplicateName (name : Text)
  | providerNotKey
  | unknownProvider (provider name : Text)
  | noUrl (name : Text)
  deriving DecidableEq, Repr

def Error.message : Error → Text
  | .missing path => Text.of "Config file not found: " ++ path.text
  | .unreadable e => Text.of "Failed to read config file: " ++ e.message
  | .notUtf8 => "invalid UTF-8"
  | .document path (.scalar fault) => (Yaml.Error.scalar fault).message path.text
  | .document path e => Text.of "Failed to parse config YAML: " ++ e.message path.text
  | .rootNotMapping => "Config root must be a mapping"
  | .sectionNotMapping name => 0x27 :: name ++ Text.of "' section must be a mapping"
  | .redirects => "'resolver.max_redirects' must be a positive integer"
  | .timeout => "'fetch.timeout' must be a positive number"
  | .timeoutTooLarge => "int too large to convert to float"
  | .integerTooLong => Value.notWritable
  | .unknownHome => "Could not determine home directory."
  | .userUnencodable => "surrogates not allowed"
  | .userWithZero => "embedded null byte"
  | .sourcesNotList => "'sources' must be a list"
  | .sourceNotMapping index =>
      Text.of "Invalid source entry #" ++ ofNat index ++ Text.of ": expected a mapping"
  | .missingField name index =>
      Text.of "Missing required field '" ++ name ++ Text.of "' in source #" ++ ofNat index
  | .duplicateName name => Text.of "Duplicate source name: " ++ name
  | .providerNotKey => "unhashable type"
  | .unknownProvider provider name =>
      Text.of "Unknown provider '" ++ provider ++ Text.of "' for source '" ++ name ++
        Text.of "'. Available providers: " ++ Provider.available
  | .noUrl name => Text.of "Source '" ++ name ++ Text.of "' has a provider but no 'url'"

end UrlRules.Config
