import UrlRules.Rule.Basic
import UrlRules.Rule.Query
import UrlRules.Rule.Template

/-!
# Applying a rule

A rule applies to a URL in which its pattern is found. It strips its parameters, or expands its
template with the groups of the first match, or, with an empty template, deletes every match. A
rule whose pattern is no pattern never applies.
-/
namespace UrlRules

/-- Why applying a rule can fail. -/
inductive ApplyError where
  | pattern (error : Pattern.Error)
  | reference (error : Template.TooManyDigits)
  deriving DecidableEq, Repr

def ApplyError.message : ApplyError → Text
  | .pattern error => error.message
  | .reference error => Pattern.Error.message (.tooManyDigits error.count)

namespace Rule

/-- What the rule makes of a URL in which a pattern is found. -/
def transform (r : Rule) (p : Pattern) (m : Pattern.Match) (url : Text) :
    Except ApplyError (Option Text) :=
  if r.stripsParams then .ok (Query.remove url r.removeParams)
  else
    match r.substitution with
    | some (c :: template) =>
        match Template.expandMatch (c :: template) p m with
        | .ok s => .ok (some s)
        | .error e => .error (.reference e)
    | _ => .ok (some (p.erase url))

/-- The URL that the rule makes of a URL; none if it does not apply. -/
def apply (r : Rule) (url : Text) : Except ApplyError (Option Text) :=
  match Pattern.read r.pattern with
  | .error e => if e.isInvalidPattern then .ok none else .error (.pattern e)
  | .ok p =>
      match p.search url with
      | none => .ok none
      | some m => r.transform p m url

/-- What the first rule that applies makes of a URL, with the id of the rule. -/
def firstMatch (rules : List Rule) (url : Text) : Except ApplyError (Option (Text × Text)) :=
  match rules with
  | [] => .ok none
  | r :: rules =>
      match r.apply url with
      | .error e => .error e
      | .ok (some result) => .ok (some (r.id, result))
      | .ok none => firstMatch rules url

end Rule
end UrlRules
