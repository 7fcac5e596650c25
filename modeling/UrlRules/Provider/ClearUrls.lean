import UrlRules.Provider.Basic
import UrlRules.Provider.Name

/-!
# ClearURLs data

Each provider of the document has a pattern for its URLs. It gives, in this order, a rule for each
redirection, which unwraps the first group; a rule for each raw rule, which deletes its matches; and
rules that strip its parameters and its referral parameters. One counter numbers them all.
-/
namespace UrlRules.Provider.ClearUrls

open Text

inductive Kind where
  | redirect
  | raw
  | params
  | referral
  deriving DecidableEq, Repr

def Kind.name : Kind → Text
  | .redirect => "redirect"
  | .raw => "raw"
  | .params => "params"
  | .referral => "referral"

/-- The start of all ids of a provider. -/
def idStart (name : Text) : Text := sanitizeId (Text.of "clearurls-" ++ name)

def ruleId (start : Text) (kind : Kind) (number : Nat) : Text :=
  start ++ 0x2D :: kind.name ++ 0x2D :: Text.ofNat number

/-- A rule yet to be made. -/
structure Entry where
  kind : Kind
  pattern : Json
  behaviour : Behaviour
  deriving DecidableEq, Repr

/-- The items of a field that is a list. -/
def itemsAt (fields : List (Text × Json)) (name : String) : List Json :=
  ((Json.field? fields (Text.of name)).bind Json.asList?).getD []

/-- The rule that strips the parameters of a field, if it has any. -/
def stripEntry (kind : Kind) (fields : List (Text × Json)) (name : String) (urlPattern : Json) :
    List Entry :=
  match parameterNames ((Json.field? fields (Text.of name)).getD .null) with
  | [] => []
  | names => [⟨kind, urlPattern, .strip names⟩]

/-- The rules of a provider, in order. -/
def entries (fields : List (Text × Json)) (urlPattern : Json) : List Entry :=
  (itemsAt fields "redirections").map (⟨.redirect, ·, .expand (Text.of "$1")⟩) ++
    (itemsAt fields "rawRules").map (⟨.raw, ·, .expand []⟩) ++
    stripEntry .params fields "rules" urlPattern ++
    stripEntry .referral fields "referralMarketing" urlPattern

/-- The rules of one provider. -/
def normalizeProvider (name : Text) (provider : Json) : Except Failure Normalized :=
  let missing : Normalized :=
    .warning (Text.of "clearurls: provider " ++ quoted name ++ Text.of " has no urlPattern, skipped")
  match provider with
  | .object fields =>
      match Json.field? fields (Text.of "urlPattern") with
      | some (.text pattern) =>
          let make : Entry × Nat → Except Failure Normalized := fun (entry, number) =>
            makeRule .clearUrls (ruleId (idStart name) entry.kind number) entry.pattern
              entry.behaviour
          collect make (entries fields (.text pattern)).zipIdx
      | _ => .ok missing
  | _ => .ok missing

/-- The rules of a document. -/
def normalizeDocument (data : Json) : Except Failure Normalized :=
  match data with
  | .object fields =>
      match Json.field? fields (Text.of "providers") with
      | some (.object providers) =>
          collect (fun (name, provider) => normalizeProvider name provider) providers
      | _ => .error Error.noProviders.atOnce
  | _ => .error Error.noProviders.atOnce

end UrlRules.Provider.ClearUrls
