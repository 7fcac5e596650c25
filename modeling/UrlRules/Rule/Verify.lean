import UrlRules.Rule.Apply

/-!
# Checking the examples of rules

An example holds if the rule makes of its URL what it says; a rule that does not apply leaves the
URL as it is.
-/
namespace UrlRules

/-- An example that does not hold. -/
structure ExampleFailure where
  ruleId : Text
  input : Json
  expected : Json
  actual : Json
  deriving DecidableEq, Repr

/-- Why checking an example can fail. -/
inductive VerifyError where
  | apply (error : ApplyError)
  /-- The URL of an example is no text. -/
  | inputNotText
  deriving DecidableEq, Repr

namespace Rule

/-- What a rule makes of the URL of an example. -/
def actual (r : Rule) (input : Json) : Except VerifyError Json :=
  match input with
  | .text url =>
      match r.apply url with
      | .error e => .error (.apply e)
      | .ok none => .ok input
      | .ok (some s) => .ok (.text s)
  | _ =>
      match Pattern.read r.pattern with
      | .ok _ => .error .inputNotText
      | .error e => if e.isInvalidPattern then .ok input else .error (.apply (.pattern e))

/-- The examples of a rule that do not hold. -/
def verifyOne (r : Rule) : Except VerifyError (List ExampleFailure) := do
  let failures ← r.examples.mapM fun e => do
    let actual ← r.actual e.input
    return if actual = e.expected then [] else [⟨r.id, e.input, e.expected, actual⟩]
  return failures.flatten

/-- The examples of all rules that do not hold. -/
def verify (rules : List Rule) : Except VerifyError (List ExampleFailure) := do
  return (← rules.mapM verifyOne).flatten

end Rule
end UrlRules
