import UrlRules.Yaml.Error

/-!
# Tokens of a document
-/
namespace UrlRules.Yaml

open Text

inductive Directive where
  | version (major minor : Nat)
  | handle (handle lead : Text)
  | other
  deriving DecidableEq, Repr

/-- A tag as it is written: without a handle it is complete. -/
structure TagName where
  handle : Option Text
  rest : Text
  deriving DecidableEq, Repr

inductive Token where
  | directive (d : Directive)
  | documentStart
  | documentEnd
  | streamEnd
  | blockSequenceStart
  | blockMappingStart
  | blockEnd
  | flowSequenceStart
  | flowSequenceEnd
  | flowMappingStart
  | flowMappingEnd
  | key
  | value
  | blockEntry
  | flowEntry
  | alias (name : Text)
  | anchor (name : Text)
  | tag (name : TagName)
  | scalar (text : Text) (plain : Bool)
  deriving DecidableEq, Repr, Inhabited

/-- The name of a token in messages. -/
def Token.text : Token → Text
  | .directive _ => "<directive>"
  | .documentStart => "<document start>"
  | .documentEnd => "<document end>"
  | .streamEnd => "<stream end>"
  | .blockSequenceStart => "<block sequence start>"
  | .blockMappingStart => "<block mapping start>"
  | .blockEnd => "<block end>"
  | .flowSequenceStart => "["
  | .flowSequenceEnd => "]"
  | .flowMappingStart => [0x7B]
  | .flowMappingEnd => [0x7D]
  | .key => "?"
  | .value => ":"
  | .blockEntry => "-"
  | .flowEntry => ","
  | .alias _ => "<alias>"
  | .anchor _ => "<anchor>"
  | .tag _ => "<tag>"
  | .scalar .. => "<scalar>"

/-- A token with the places where it starts and where it ends. -/
structure Lexeme where
  token : Token
  start : Mark
  stop : Mark
  deriving DecidableEq, Repr, Inhabited

end UrlRules.Yaml
