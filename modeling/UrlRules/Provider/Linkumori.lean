import UrlRules.Provider.Basic
import UrlRules.Provider.Name

/-!
# Linkumori data

The document is a list of entries, each with the parameters to strip and maybe a domain. An entry
gives one rule, whose id ends in the domain.
-/
namespace UrlRules.Provider.Linkumori

open Text

/-- The name under which the list is declared. -/
def declaration : Text := "parameterRules"

/-- The longest text of an entry in a warning. -/
def shownLength : Nat := 80

/-- The id of the rule for a domain. -/
def ruleId (provider domain : Text) : Text :=
  let domain := strip domain
  sanitizeId provider ++ Text.of "-params-" ++
    (if domain.isEmpty then Text.of "global" else sanitizeId domain)

/-- The domain of an entry, empty if it has none. Another kind of value is no domain. -/
def domainOf (fields : List (Text × Json)) : Except Json Text :=
  match (Json.field? fields (Text.of "domain")).getD .null with
  | .null => .ok []
  | .text s => .ok s
  | value => .error value

/-- The warning that an entry makes no rule, with a text that shows a value. -/
def showing (why : String) (value : Json) (shown : Text) : Except Failure Normalized :=
  if value.isWritable then .ok (.warning (Text.of why ++ shown)) else .error Error.integerTooLong.atOnce

/-- The rule of one entry. -/
def normalizeEntry (provider : Text) (entry : Json) : Except Failure Normalized :=
  let missing :=
    showing "linkumori: entry without removeParams skipped: " entry (entry.quoted.take shownLength)
  match entry with
  | .object fields =>
      match Json.field? fields (Text.of "removeParams") with
      | some (.list params) =>
          match domainOf fields with
          | .error value =>
              showing "linkumori: entry with non-string domain skipped: " value value.quoted
          | .ok domain =>
              match parameterNames (.list params) with
              | [] => .ok .empty
              | names =>
                  makeRule .linkumori (ruleId provider domain) (.text (domainPattern domain))
                    (.strip names)
      | _ => missing
  | _ => missing

/-- The rules of a document: the list itself, or an object with the list. -/
def normalizeDocument (data : Json) : Except Failure Normalized :=
  let entries :=
    match data with
    | .object fields => (Json.field? fields declaration).getD .null
    | data => data
  match entries with
  | .list entries => collect (normalizeEntry Provider.linkumori.name) entries
  | _ => .error Error.notAList.atOnce

end UrlRules.Provider.Linkumori
