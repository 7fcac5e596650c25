import UrlRules.Command.Error

/-!
# What commands say

A command that has done its work says so, and the program ends with a code. Names and ids in confirmations
are taken as markup; what stands in tables of rules is shown as it is.
-/
namespace UrlRules.Command

open Text

/-- What a command says, and the code with which the program ends. -/
structure Report where
  messages : List Message
  code : Nat
  deriving DecidableEq, Repr

namespace Report

def success (messages : List Message) : Report := ⟨messages, 0⟩

def failure (messages : List Message) : Report := ⟨messages, 1⟩

/-- A line in a style. -/
def styled (style : String) (s : Text) : Text :=
  Text.of "[" ++ Text.of style ++ Text.of "]" ++ s ++ Text.of "[/" ++ Text.of style ++ Text.of "]"

def tick : Text := "✓"
def cross : Text := "✗"

/-- The line that confirms what was done. -/
def confirmation (s : Text) : Message := .line (styled "green" tick ++ Text.of " " ++ s)

def confirmed (s : Text) : Report := success [confirmation s]

def version : Report :=
  success [.line (styled "bold cyan" "LinkPure" ++ Text.of " version " ++ styled "yellow" "0.1.0")]

/-! ## Rules -/

/-- What a rule does, for a table. -/
def effectText (r : Rule) : Text :=
  if r.stripsParams then Text.of "remove " ++ joinWith (Text.of ", ") r.removeParams
  else
    match r.substitution with
    | some template => quoted template
    | none => "None"

def ruleRow (r : Rule) : List Text :=
  [Markup.escape r.id, if r.enabled then styled "green" tick else styled "dim" cross,
    Markup.escape r.pattern, Markup.escape (effectText r)]

def ruleList (rules : List Rule) : Report :=
  if rules.isEmpty then success [.line (styled "yellow" "No rules")]
  else
    success [.table (Text.of "Rules (" ++ ofNat rules.length ++ Text.of ")")
      ["ID", "On", "Pattern", "Rewrite"] (rules.map ruleRow)]

def added (id : Text) : Report := confirmed (Text.of "Added rule " ++ id)

def updated (id : Text) : Report := confirmed (Text.of "Updated rule " ++ id)

def deleted (id : Text) (found : Bool) : Report :=
  if found then confirmed (Text.of "Deleted rule " ++ id)
  else failure [.line (styled "yellow" (Text.of "No rule with id " ++ id))]

def toggled (id : Text) (enabled : Bool) : Report :=
  confirmed (Text.of "Rule " ++ id ++ Text.of (if enabled then " enabled" else " disabled"))

def imported (count : Nat) : Report :=
  confirmed (Text.of "Imported " ++ ofNat count ++ Text.of " rules")

def exported (count : Nat) (path : Path) : Report :=
  confirmed (Text.of "Exported " ++ ofNat count ++ Text.of " rules to " ++ path.text)

def failureRow (f : ExampleFailure) : List Text :=
  [Markup.escape f.ruleId, Markup.escape f.input.display, Markup.escape f.expected.display,
    Markup.escape f.actual.display]

/-- The examples that do not hold, out of a number of them. -/
def verified (count : Nat) (failures : List ExampleFailure) : Report :=
  if failures.isEmpty then confirmed (ofNat count ++ Text.of " test case(s) passed")
  else
    failure [.table
      (ofNat failures.length ++ Text.of " of " ++ ofNat count ++ Text.of " test case(s) failed")
      ["Rule", "From", "Expected", "Actual"] (failures.map failureRow)]

/-! ## Chains -/

def statusStyle : Chain.Status → String
  | .matched => "green"
  | .notMatched => "dim"
  | .circular => "red"
  | .infinite => "yellow"

def chainRow (index : Nat) (step : Text × Text) : List Text :=
  [ofNat (index + 1), Markup.escape step.1, Markup.escape step.2]

def chainData (chain : ChainResult) : Json :=
  .object [("status", .text chain.status.text), ("urls", .list (chain.values.map .text))]

def chainMessages (chain : ChainResult) : List Message :=
  .line (styled (statusStyle chain.status) chain.status.text) ::
    if chain.steps.isEmpty then []
    else [.table "Rewrite Chain" ["#", "Rule", "URL"] (chain.steps.mapIdx chainRow)]

def checked (chain : ChainResult) (asData : Bool) : Report :=
  success (if asData then [.value (chainData chain)] else chainMessages chain)

/-! ## Sources -/

def fetched (report : Pipeline.Report) : Report :=
  success <|
    (report.written.map fun (name, count) =>
      confirmation (name ++ Text.of ": " ++ ofNat count ++ Text.of " rules")) ++
    report.created.map fun name =>
      .line (styled "blue" "Created empty rule file for" ++ Text.of " " ++ name)

def sourceRow (result : MergeResult) (entry : Text × Nat) : List Text :=
  [entry.1, ofNat entry.2, ofNat ((Json.field? result.duplicates entry.1).getD 0)]

def merged (result : MergeResult) (output : Path) : Report :=
  success [
    .table "Sources (priority order)" ["Source", "Rules", "Duplicates removed"]
      (result.counts.map (sourceRow result)),
    .panel "Merge complete"
      (styled "green" (ofNat result.rules.length) ++ Text.of " rules written to " ++ output.text)]

/-! ## Errors -/

def error (e : Error) : Report :=
  failure [.line (styled "red" "Error:" ++ Text.of " " ++ Markup.escape e.message)]

/-- The issues for which an import is refused. -/
def rejected (issues : List Document.Issue) : Report :=
  failure <|
    .line (styled "red" "Import rejected:" ++ Text.of " " ++ ofNat issues.length ++
      Text.of " invalid rule(s)") ::
    issues.map fun issue => .line (Markup.escape issue.line)

end Report
end UrlRules.Command
