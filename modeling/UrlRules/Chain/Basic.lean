/-!
# Chains

A chain starts at a value and takes one step after the other. It settles where no step is left, it
loops where a step leads back to a value it has seen, and it is cut off after a number of rounds.
Each step carries a label.
-/
namespace UrlRules.Chain

inductive Status where
  | notMatched
  | matched
  | circular
  | infinite
  deriving DecidableEq, Repr, Inhabited

/-- How a chain ended, and the steps it took: each label with the value it led to. -/
structure Outcome (α : Type) (β : Type) where
  status : Status
  steps : List (β × α)
  deriving DecidableEq, Repr

variable {α β : Type} [DecidableEq α]

/-- Follows a chain from `current`, where `steps` are those taken so far, latest first. -/
def followFrom (step : α → Option (β × α)) (start : α) :
    Nat → α → List (β × α) → Outcome α β
  | 0, _, steps => ⟨.infinite, steps.reverse⟩
  | rounds + 1, current, steps =>
      match step current with
      | none => ⟨if steps.isEmpty then .notMatched else .matched, steps.reverse⟩
      | some (label, next) =>
          if next = start ∨ next ∈ steps.map (·.2) then
            ⟨.circular, ((label, next) :: steps).reverse⟩
          else followFrom step start rounds next ((label, next) :: steps)

/-- Follows the chain from a value for at most a number of rounds. -/
def follow (step : α → Option (β × α)) (rounds : Nat) (start : α) : Outcome α β :=
  followFrom step start rounds start []

namespace Outcome

def values (o : Outcome α β) : List α := o.steps.map (·.2)

def labels (o : Outcome α β) : List β := o.steps.map (·.1)

/-- The last value produced. -/
def final? (o : Outcome α β) : Option α := o.values.getLast?

end Outcome
end UrlRules.Chain
