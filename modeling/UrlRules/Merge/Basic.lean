import UrlRules.Rule.Basic
import UrlRules.Value.Display

/-!
# Merging

Sources of rules are merged by priority, the first one first. Of the rules with one id the first
stays, and each of the others is skipped and counted under the name of its source. A rule that
stays without a source is tagged with the name of the one it was found in.
-/
namespace UrlRules

open Text

/-- A named list of rules. -/
structure RuleSource where
  name : Text
  rules : List Rule
  deriving DecidableEq, Repr

structure MergeResult where
  rules : List Rule
  /-- For each name, the number of its rules that were skipped. -/
  duplicates : List (Text × Nat)
  /-- The skipped rules: the name of the source and the id. -/
  skipped : List (Text × Text)
  /-- For each name, the number of its rules. -/
  counts : List (Text × Nat)
  deriving DecidableEq, Repr

namespace Merge

/-- The rules with an id that is not among those seen nor among the rules before them. -/
def fresh (seen : List Text) : List Rule → List Rule
  | [] => []
  | r :: rules => if r.id ∈ seen then fresh seen rules else r :: fresh (r.id :: seen) rules

/-- The other rules. -/
def stale (seen : List Text) : List Rule → List Rule
  | [] => []
  | r :: rules => if r.id ∈ seen then r :: stale seen rules else stale (r.id :: seen) rules

/-- A rule with a source, its own or the given one. -/
def tag (name : Text) (r : Rule) : Rule := { r with source := some (r.source.getD name) }

/-- Adds to the number under a name. -/
def count (counts : List (Text × Nat)) (name : Text) (n : Nat) : List (Text × Nat) :=
  Json.setField counts name ((Json.field? counts name).getD 0 + n)

def empty : MergeResult := ⟨[], [], [], []⟩

/-- Adds a source of lower priority. -/
def add (tagged : Bool) (result : MergeResult) (source : RuleSource) : MergeResult :=
  let seen := result.rules.map (·.id)
  let kept := fresh seen source.rules
  let dropped := stale seen source.rules
  { rules := result.rules ++ if tagged then kept.map (tag source.name) else kept
    duplicates := count result.duplicates source.name dropped.length
    skipped := result.skipped ++ dropped.map fun r => (source.name, r.id)
    counts := count result.counts source.name source.rules.length }

/-- Merges sources, those of highest priority first. -/
def merge (tagged : Bool) (sources : List RuleSource) : MergeResult :=
  sources.foldl (add tagged) empty

end Merge

/-- The number of all skipped rules. -/
def MergeResult.totalDuplicates (result : MergeResult) : Nat :=
  (result.duplicates.map (·.2)).foldl (· + ·) 0

end UrlRules
