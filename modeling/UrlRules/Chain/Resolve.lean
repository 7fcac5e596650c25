import UrlRules.Chain.Basic
import UrlRules.Rule.Apply

/-!
# Resolving a URL

The chain of a URL under a list of rules: in each round the first enabled rule that applies makes the
next URL. A round can fail only where the chain would settle, since there every rule has been tried.
-/
namespace UrlRules

open Chain

inductive ResolveError where
  | nonPositiveBound (bound : Int)
  | apply (error : ApplyError)
  deriving DecidableEq, Repr

def ResolveError.message : ResolveError → Text
  | .nonPositiveBound bound =>
      Text.of "max_redirects must be positive, got " ++ Text.ofInt bound
  | .apply error => error.message

def Chain.Status.text : Status → Text
  | .notMatched => "not-matched"
  | .matched => "matched"
  | .circular => "circular-redirect"
  | .infinite => "infinite-redirect"

abbrev ChainResult := Outcome Text Text

namespace Rule

def enabledOnly (rules : List Rule) : List Rule := rules.filter (·.enabled)

/-- One round: the first enabled rule that applies. A failure counts as no step. -/
def step (rules : List Rule) (url : Text) : Option (Text × Text) :=
  match firstMatch (enabledOnly rules) url with
  | .ok found => found
  | .error _ => none

/-- The failure of a round. -/
def stepError? (rules : List Rule) (url : Text) : Option ApplyError :=
  match firstMatch (enabledOnly rules) url with
  | .ok _ => none
  | .error e => some e

def defaultRounds : Nat := 5

/-- The chain of a URL under a list of rules. -/
def resolve (rules : List Rule) (rounds : Int) (url : Text) : Except ResolveError ChainResult :=
  if rounds ≤ 0 then .error (.nonPositiveBound rounds)
  else
    let result := follow (step rules) rounds.toNat url
    if result.status = .notMatched ∨ result.status = .matched then
      match stepError? rules (result.final?.getD url) with
      | some e => .error (.apply e)
      | none => .ok result
    else .ok result

end Rule
end UrlRules
