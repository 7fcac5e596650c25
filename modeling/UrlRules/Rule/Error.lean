import UrlRules.Pattern.Error

/-!
# Why something is not a rule

Each fault of a rule names the field at fault and, where it is known, the rule.
-/
namespace UrlRules

open Text

inductive RuleFault where
  | emptyId
  | missingPattern (id : Text)
  | bothBehaviours (id : Text)
  | noBehaviour (id : Text)
  | substitutionNotText (id : Text)
  | badParameterName (id : Text)
  | enabledNotBoolean (id : Text)
  /-- A rule in a file is no object. -/
  | notAnObject
  | missingId
  | missingPatternField (id : Text)
  | parametersNotList (id : Text)
  | badTest (id : Text)
  /-- A rule file has no list of rules. -/
  | missingRules
  | rulesNotList
  deriving DecidableEq, Repr

namespace RuleFault

def about (id : Text) (rest : String) : Text := Text.of "Rule '" ++ id ++ Text.of "'" ++ Text.of rest

def message : RuleFault → Text
  | .emptyId => "Rule id must be a non-empty string"
  | .missingPattern id => about id " has no match pattern"
  | .bothBehaviours id => about id " sets both regexSubstitution and removeParams"
  | .noBehaviour id => about id " needs either regexSubstitution or removeParams"
  | .substitutionNotText id => about id ": regexSubstitution must be a string"
  | .badParameterName id => about id ": removeParams entries must be non-empty strings"
  | .enabledNotBoolean id => about id ": enabled must be a boolean"
  | .notAnObject => "Rule must be a JSON object"
  | .missingId => "Missing rule id"
  | .missingPatternField id => about id " is missing regexFilter/from"
  | .parametersNotList id => about id ": removeParams must be a list"
  | .badTest id => about id ": test cases need string 'from' and 'to'"
  | .missingRules => "Invalid file format: missing 'rules'"
  | .rulesNotList => "Invalid file format: expected a list of rules"

/-- The name of the field at fault; empty if the rule as a whole is. -/
def field : RuleFault → Text
  | .emptyId | .missingId => "id"
  | .missingPattern _ | .missingPatternField _ => "regexFilter"
  | .bothBehaviours _ | .badParameterName _ | .parametersNotList _ => "removeParams"
  | .noBehaviour _ | .substitutionNotText _ => "regexSubstitution"
  | .enabledNotBoolean _ => "enabled"
  | .badTest _ => "test"
  | .missingRules | .rulesNotList => "rules"
  | .notAnObject => []

/-- The rule at fault; empty if it has no usable id. -/
def ruleId : RuleFault → Text
  | .missingPattern id | .bothBehaviours id | .noBehaviour id | .substitutionNotText id
  | .badParameterName id | .enabledNotBoolean id | .missingPatternField id
  | .parametersNotList id | .badTest id => id
  | _ => []

end RuleFault

/-- Why no rule could be made. -/
inductive RuleError where
  | invalidRecord (fault : RuleFault)
  | invalidPattern (pattern : Text) (reason : Pattern.Error) (id : Text)
  /-- The pattern fails for a cause that does not make the rule invalid. -/
  | patternFailure (error : Pattern.Error)
  /-- A value that has no items stands where a list is read. -/
  | notIterable
  deriving DecidableEq, Repr

namespace RuleError

/-- A failure to read a pattern, as seen from the rule with that pattern. -/
def ofPattern (pattern id : Text) (error : Pattern.Error) : RuleError :=
  if error.isInvalidPattern then .invalidPattern pattern error id else .patternFailure error

def invalidPatternMessage (pattern : Text) (reason : Pattern.Error) (id : Text) : Text :=
  Text.of "Invalid pattern" ++
    (if id.isEmpty then [] else Text.of " in rule '" ++ id ++ Text.of "'") ++
    Text.of ": " ++ quoted pattern ++ Text.of " (" ++ reason.message ++ Text.of ")"

def message : RuleError → Text
  | .invalidRecord fault => fault.message
  | .invalidPattern pattern reason id => invalidPatternMessage pattern reason id
  | .patternFailure error => error.message
  | .notIterable => "not iterable"

end RuleError
end UrlRules
