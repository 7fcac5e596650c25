import UrlRules.Provider.ClearUrls
import UrlRules.Provider.Linkumori
import UrlRules.Script.Literal

/-!
# Rules from provider data

The text of a provider is JSON or a script, and the rules are those of the document in it.
-/
namespace UrlRules.Provider

/-- The document in the text of a provider. -/
def parse (provider : Provider) (text : Text) : Except Error Json :=
  match provider with
  | .clearUrls =>
      match Json.read text with
      | .ok data => .ok data
      | .error (.malformed fault place) => .error (.notJson fault place)
      | .error (.tooManyDigits count) => .error (.tooManyDigits count)
  | .linkumori =>
      match Script.declaredLiteral text Linkumori.declaration with
      | .ok data => .ok data
      | .error e => .error (.script e)

/-- The rules of a document. -/
def normalizeDocument (provider : Provider) (data : Json) : Except Failure Normalized :=
  match provider with
  | .clearUrls => ClearUrls.normalizeDocument data
  | .linkumori => Linkumori.normalizeDocument data

/-- The rules of one entry of a document. -/
def normalizeEntry (provider : Provider) (name : Text) (entry : Json) : Except Failure Normalized :=
  match provider with
  | .clearUrls => ClearUrls.normalizeProvider name entry
  | .linkumori => Linkumori.normalizeEntry name entry

/-- The rules in the text of a provider. -/
def normalizeText (provider : Provider) (text : Text) : Except Failure Normalized :=
  match provider.parse text with
  | .ok data => provider.normalizeDocument data
  | .error e => .error e.atOnce

end UrlRules.Provider
