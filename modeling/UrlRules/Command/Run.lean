import UrlRules.Command.Report
import UrlRules.Command.Session

/-!
# Running commands

A command does its work and reports. If the work fails, the error is reported, or the program fails with
it.
-/
namespace UrlRules.Command

open Text

/-! ## The list of rules -/

/-- Works on the store that the settings name. -/
def onRules {α : Type} (around : Surroundings) (config : Option Path) (action : Store.Action α) :
    Work α := do
  let settings ← Work.settings around config
  Work.withStore settings.database action

def addRule (around : Surroundings) (config : Option Path) (id : Option Text) (draft : Rule.Draft)
    (first : Bool) : Work Report := do
  let id ←
    match id with
    | some (c :: s) => pure (c :: s)
    | _ => Work.newId around
  let rule ← Work.lift .rule { draft with id := .text id }.check
  onRules around config (Store.insert rule first)
  return .added rule.id

/-- The fields of a rule after changes. -/
def changed (changes : RuleChanges) (draft : Rule.Draft) : Rule.Draft :=
  let draft :=
    match changes.pattern with
    | none => draft
    | some pattern => { draft with pattern := .text pattern }
  let draft :=
    match changes.substitution with
    | none => draft
    | some template => { draft with substitution := .text template, removeParams := .list [] }
  if changes.removeParams.isEmpty then draft
  else
    { draft with
      substitution := .null
      removeParams := .list (changes.removeParams.map .text) }

/-- Changes the rule with an id in the store. -/
def updateIn (id : Text) (changes : RuleChanges) : Store.Action (Except RuleError Unit) := do
  match ← Store.find id with
  | none => throw (.notFound id)
  | some rule =>
      match (changed changes rule.draft).check with
      | .error e => return .error e
      | .ok rule => return .ok (← Store.update rule)

def updateRule (around : Surroundings) (config : Option Path) (id : Text) (changes : RuleChanges) :
    Work Report := do
  Work.lift .rule (← onRules around config (updateIn id changes))
  return .updated id

def importRules (around : Surroundings) (config : Option Path) (path : Path) (keepIds : Bool) :
    Work Report := do
  let session ← get
  let data ← Work.lift .file (Document.readJson session.files path)
  let supply := if keepIds then none else some fun i => Json.text (around.newId (session.issued + i))
  let rules ← Work.lift .document (Document.importRules data supply)
  if !keepIds then set { session with issued := session.issued + rules.length }
  onRules around config (Store.insertAll rules true)
  return .imported rules.length

def exportRules (around : Surroundings) (config : Option Path) (path : Path) : Work Report := do
  let rules ← onRules around config Store.list
  let session ← get
  let (failure, files) := Document.writeText session.files path (Document.textOfRules rules)
  set { session with files }
  match failure with
  | some e => throw (.file e)
  | none => return .exported rules.length path

def verifyRules (around : Surroundings) (config : Option Path) (path : Option Path) :
    Work Report := do
  let rules ←
    match path with
    | some path => Work.rulesIn path
    | none => onRules around config Store.list
  let failures ← Work.lift .verify (Rule.verify rules)
  return .verified ((rules.map (·.examples.length)).foldl (· + ·) 0) failures

/-! ## Chains and sources -/

/-- The bound for a chain. Settings are not needed if rules come from a file and none are named. -/
def roundsFor (around : Surroundings) (config rules : Option Path) (rounds : Option Nat) :
    Work Int := do
  match rounds with
  | some n => return n
  | none =>
      if rules.isNone || config.isSome then
        return (← Work.settings around config).maxRedirects
      else return Rule.defaultRounds

def checkUrl (around : Surroundings) (config : Option Path) (url : Text) (path : Option Path)
    (rounds : Option Nat) (asJson : Bool) : Work Report := do
  let rounds ← roundsFor around config path rounds
  let rules ←
    match path with
    | some path => Work.rulesIn path
    | none => onRules around config Store.enabled
  return .checked (← Work.lift .resolve (Rule.resolve rules rounds url)) asJson

def fetchSources (around : Surroundings) (config : Option Path) : Work Report := do
  let settings ← Work.settings around config
  return .fetched (← Work.pipeline (Pipeline.download settings around.web))

def mergeSources (around : Surroundings) (config : Option Path) : Work Report := do
  let settings ← Work.settings around config
  return .merged (← Work.pipeline (Pipeline.merge settings)) settings.bundleOutput

def buildBundle (around : Surroundings) (config : Option Path) : Work Report := do
  let settings ← Work.settings around config
  return .merged (← Work.pipeline (Pipeline.build settings around.web)) settings.bundleOutput

/-! ## All commands -/

/-- Does the work of a command. -/
def perform (around : Surroundings) (config : Option Path) : Command → Work Report
  | .check url rules rounds asJson => checkUrl around config url rules rounds asJson
  | .fetch => fetchSources around config
  | .merge => mergeSources around config
  | .build => buildBundle around config
  | .version => return .version
  | .list enabledOnly => do
      return .ruleList (← onRules around config (if enabledOnly then Store.enabled else Store.list))
  | .add id pattern substitution removeParams enabled first =>
      addRule around config id
        { id := .null, pattern := .text pattern, substitution := Rule.textOrNull substitution
          removeParams := .list (removeParams.map .text), enabled := .bool enabled } first
  | .update id changes => updateRule around config id changes
  | .delete id => do return .deleted id (← onRules around config (Store.delete id))
  | .toggle id enabled => do
      onRules around config (Store.setEnabled id enabled)
      return .toggled id enabled
  | .importFile path keepIds => importRules around config path keepIds
  | .exportFile path => exportRules around config path
  | .verify path => verifyRules around config path

/-- The file that has to be there for a command to start. -/
def neededFile? : Command → Option Path
  | .check _ rules _ _ => rules
  | .importFile path _ => some path
  | .verify path => path
  | _ => none

/-- How an error is reported. -/
def reportOf : Command → Error → Report
  | .importFile _ _, .document (.rejected issues) => .rejected issues
  | _, e => .error e

/-- How the program ends. -/
inductive Ending where
  | done (code : Nat)
  | misused (error : UsageError)
  | failed (error : Error)
  deriving DecidableEq, Repr

def Ending.code : Ending → Nat
  | .done code => code
  | .misused _ => 2
  | .failed _ => 1

/-- What a run shows, and how it ends. -/
structure Outcome where
  output : List Output
  ending : Ending
  deriving DecidableEq, Repr

/-- Shows what a report says. -/
def Report.present (report : Report) : Outcome :=
  match Message.renderAll report.messages with
  | (output, none) => ⟨output, .done report.code⟩
  | (output, some e) => ⟨output, .failed (.markup e)⟩

/-- Runs a command. -/
def runCommand (around : Surroundings) (config : Option Path) (command : Command) :
    StateM Session Outcome := fun session =>
  match (neededFile? command).filter fun path => !session.files.contains path with
  | some path => (⟨[], .misused (.noSuchFile path.text)⟩, session)
  | none =>
      match (perform around config command).run session with
      | (.ok report, session) => (report.present, session)
      | (.error e, session) =>
          if e.isReported then ((reportOf command e).present, session)
          else (⟨[], .failed e⟩, session)

/-- Runs the command that the words of a command line ask for. -/
def run (around : Surroundings) (words : List Text) : StateM Session Outcome :=
  match read words with
  | .error e => return ⟨[], .misused e⟩
  | .ok ⟨_, none⟩ => return ⟨[], .done 0⟩
  | .ok ⟨config, some command⟩ => runCommand around config command

end UrlRules.Command
