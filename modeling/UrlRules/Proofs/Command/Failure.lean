import UrlRules.Proofs.Command.Exchange
import UrlRules.Proofs.Console.Markup
import UrlRules.Proofs.Store.Refusal

/-!
# Failing commands

A command works on the store at most once, and what it asks of the store commits nothing unless it succeeds. So
the list that a freshly opened store shows is the one from before if the work fails, or if its report has another
code than zero (`perform_failed`). What is left is a report that cannot be shown (`runCommand_failed`). Words that ask
for no command leave everything as it is (`run_failed`).
-/
namespace UrlRules

open Text

namespace Session

variable {α : Type} {session session' : Session} {path : Path} {store : Store}

theorem run_list_of_prepared {s : Store} (medium : s.medium = .database) :
    ((do Store.prepare; Store.list : Store.Action (List Rule)).run s).1 = Store.rulesOf s.rows := by
  have usable : Store.Usable { s.opened with hasTable := true } := ⟨medium, rfl⟩
  rw [run_bind, Store.run_prepare medium]
  dsimp only
  rw [Store.run_list usable]
  rfl

/-- The list at a path is what its rows say. -/
theorem ask_list (database : Store.mediumAt session.files path = .database) :
    session.ask path Store.list = Store.rulesOf (session.storeAt path).rows :=
  run_list_of_prepared (by rw [storeAt_medium, database])

/-- Everything is committed in a store that is not opened. -/
theorem Sound.committed (sound : session.Sound path) (database : Store.mediumAt session.files path = .database) :
    (session.storeAt path).saved = (session.storeAt path).rows := by
  rcases sound.storeAt database with ⟨reachable, closed⟩ | new
  · exact reachable.sound.closed closed
  · rw [new]
    rfl

end Session

namespace Store

/-- Where no database is, a store is not opened, whatever was kept in it. -/
theorem prepare_refused {medium : Medium} (other : medium ≠ .database) :
    ∃ e, ∀ s : Store, s.medium = medium → s.connected = false → (prepare.run s).1 = .error e := by
  cases medium with
  | database => exact absurd rfl other
  | foreign =>
    refine ⟨.failed .prepare .notDatabase, fun s here unconnected => ?_⟩
    simp [prepare, connect, run_bind, run_get, run_set, run_throw, unconnected, here]
  | unopenable =>
    refine ⟨.failed .prepare .cannotOpen, fun s here unconnected => ?_⟩
    simp [prepare, connect, run_bind, run_get, run_throw, unconnected, here]
  | blocked error =>
    refine ⟨.blocked error, fun s here unconnected => ?_⟩
    simp [prepare, connect, run_bind, run_get, run_throw, unconnected, here]

end Store

namespace Command

variable {α : Type} {session session' : Session} {path : Path} {action : Store.Action α} {nothing : α → Prop}
  {result : Except Error α}

/-- Where no database is, the same is found after the work, and nothing can be asked. -/
theorem ask_withStore_refused (sound : session.Sound path) (other : Store.mediumAt session.files path ≠ .database)
    (ran : (Work.withStore path action).run session = (result, session')) :
    session'.ask path Store.list = session.ask path Store.list := by
  obtain ⟨e, refused⟩ := Store.prepare_refused other
  have ask_refused {session : Session} (refused : (Store.prepare.run (session.storeAt path)).1 = .error e) :
      session.ask path Store.list = .error e := by
    rw [Session.ask, run_bind_of_error refused]
  rw [withStore_eq] at ran
  obtain rfl := (Prod.mk.inj ran).2
  rw [ask_refused (refused _ (Session.storeAt_medium session path) sound.unconnected)]
  refine ask_refused (refused _ ?_ ?_)
  · rw [Session.storeAt_medium]
    exact Store.mediumAt_afterOpening session.files path
  · rcases Session.storeAt_cases (session.keep path _) path with ⟨kept, found, same⟩ | same
    · rw [same]
      rw [Session.find?_keep] at found
      obtain rfl := Option.some.inj found
      rfl
    · rw [same]
      rfl

/-- Work on a store shows the same list afterwards, unless it has a result that says something else. -/
theorem ask_withStore (sound : session.Sound path) (atomic : Store.AllOrNothing action nothing)
    (ran : (Work.withStore path action).run session = (result, session'))
    (failed : ∀ a, result = .ok a → nothing a) :
    session'.ask path Store.list = session.ask path Store.list := by
  by_cases database : Store.mediumAt session.files path = .database
  · have medium : (session.storeAt path).medium = .database := by rw [Session.storeAt_medium, database]
    have prepared := Store.run_prepare medium
    rw [run_withStore (by rw [prepared]), prepared] at ran
    have leaves := atomic { (session.storeAt path).opened with hasTable := true } ⟨medium, rfl⟩
      (sound.committed database)
    rcases acted : action.run { (session.storeAt path).opened with hasTable := true } with ⟨answer, s⟩
    rw [acted] at ran
    cases ran
    have left := leaves answer s acted fun a same => failed a (by rw [same]; rfl)
    have closed : (Store.close.run s).2.medium = .database := left.medium.trans medium
    rw [Session.ask_list database, Session.ask, Session.storeAt_keep database closed,
      Session.run_list_of_prepared closed]
    show Store.rulesOf s.saved = _
    rw [left.saved]
    exact congrArg Store.rulesOf (sound.committed database)
  · exact ask_withStore_refused sound database ran

/-! ## Commands that work on the store -/

variable {around : Surroundings} {config : Option Path} {settings : Config.Settings} {id : Text}

/-- Whether the program ends with a failure, if what is reported can be shown. -/
def Failed : Except Error Report → Prop
  | .error _ => True
  | .ok report => report.code ≠ 0

/-- The supply of ids does not matter for the settings. -/
theorem configured_issued (configured : ((Work.settings around config).run session).1 = .ok settings) (n : Nat) :
    ((Work.settings around config).run { session with issued := n }).1 = .ok settings := by
  rw [← configured]
  exact settings_congr rfl

theorem updateIn_allOrNothing (id : Text) (changes : RuleChanges) :
    Store.AllOrNothing (updateIn id changes) fun answer => ∃ e, answer = .error e := by
  intro s usable committed result s' ran failed
  have left := Store.find_leaves usable id
  obtain ⟨e, found, -⟩ | ⟨answer, between, found, rest⟩ := cases_of_bind ran
  · rw [found] at left
    obtain rfl : s' = s.opened := left
    exact Store.leaves_opened s
  rw [found] at left
  obtain rfl : between = s.opened := left
  cases answer with
  | none =>
    cases rest
    exact Store.leaves_opened s
  | some rule =>
    cases checked : (changed changes rule.draft).check with
    | error e =>
      simp only [checked] at rest
      cases rest
      exact Store.leaves_opened s
    | ok rule' =>
      simp only [checked] at rest
      obtain ⟨e, updated, -⟩ | ⟨u, between, -, last⟩ := cases_of_bind rest
      · have leaves := Store.change_allOrNothing _ _ _ _ s.opened usable.opened committed _ _ updated (fun _ => nofun)
        exact ⟨leaves.medium, leaves.saved⟩
      · cases last
        obtain ⟨e, contra⟩ := failed _ rfl
        cases contra

section

variable {finish : α → Work Report} {result : Except Error Report}

/-- A command that works on the store and then answers. -/
theorem ask_of_finished (answer : α → Except Error Report)
    (configured : ((Work.settings around config).run session).1 = .ok settings)
    (sound : session.Sound settings.database) (atomic : Store.AllOrNothing action nothing)
    (ran : (onRules around config action >>= finish).run session = (result, session'))
    (finishes : ∀ a s, (finish a).run s = (answer a, s)) (nothing_of_answer : ∀ a, answer a = result → nothing a) :
    session'.ask settings.database Store.list = session.ask settings.database Store.list := by
  obtain ⟨e, worked, -⟩ | ⟨a, between, worked, rest⟩ := cases_of_bind ran
  · rw [run_onRules configured] at worked
    exact ask_withStore sound atomic worked (fun _ => nofun)
  · rw [finishes] at rest
    cases rest
    rw [run_onRules configured] at worked
    exact ask_withStore sound atomic worked fun a' same => Except.ok.inj same ▸ nothing_of_answer a rfl

end

variable {result : Except Error Report} {report : Report}

theorem addRule_failed {draft : Rule.Draft} {first : Bool} {given : Option Text}
    (configured : ((Work.settings around config).run session).1 = .ok settings)
    (sound : session.Sound settings.database)
    (ran : (addRule around config given draft first).run session = (result, session')) (failed : Failed result) :
    session'.ask settings.database Store.list = session.ask settings.database Store.list := by
  -- At most the supply of ids changes before the store is opened.
  obtain ⟨id, n, rest⟩ : ∃ id n, (do
      let rule ← Work.lift .rule { draft with id := .text id }.check
      onRules around config (Store.insert rule first)
      return .added rule.id : Work Report).run { session with issued := n } = (result, session') := by
    match given with
    | some (c :: s) => exact ⟨c :: s, session.issued, ran⟩
    | some [] | none => exact ⟨_, session.issued + 1, ran⟩
  obtain ⟨e, checked, -⟩ | ⟨rule, between, checked, rest⟩ := cases_of_bind rest
  · rw [run_lift] at checked
    cases (Prod.mk.inj checked).2
    rfl
  · obtain ⟨-, rfl⟩ := lift_ok checked
    have same := ask_of_finished (fun _ => .ok (.added rule.id)) (configured_issued configured n) sound
      (Store.insertAll_allOrNothing [rule] first) rest (fun _ _ => rfl) fun _ done => absurd rfl (done ▸ failed)
    exact same

theorem updateRule_failed {changes : RuleChanges}
    (configured : ((Work.settings around config).run session).1 = .ok settings)
    (sound : session.Sound settings.database)
    (ran : (updateRule around config id changes).run session = (result, session')) (failed : Failed result) :
    session'.ask settings.database Store.list = session.ask settings.database Store.list := by
  refine ask_of_finished (fun | .error e => .error (.rule e) | .ok _ => .ok (.updated id)) configured sound
    (updateIn_allOrNothing id changes) ran (fun answer s => ?_) fun answer done => ?_
  · cases answer <;> rfl
  · cases answer with
    | error e => exact ⟨e, rfl⟩
    | ok _ => exact absurd rfl (done ▸ failed)

/-- An import reads its file, and then adds rules to the store. At most the supply of ids changes before. -/
theorem importRules_cases {keepIds : Bool}
    (ran : (importRules around config path keepIds).run session = (result, session')) :
    (∃ e, result = .error e) ∧ session' = session ∨
      ∃ (rules : List Rule) (n : Nat), (do
        onRules around config (Store.insertAll rules true)
        return .imported rules.length : Work Report).run { session with issued := n } = (result, session') := by
  unfold importRules at ran
  rw [run_bind, run_get] at ran
  obtain ⟨e, loaded, refused⟩ | ⟨data, between, loaded, rest⟩ := cases_of_bind ran
  · rw [run_lift] at loaded
    exact .inl ⟨⟨e, refused⟩, (Prod.mk.inj loaded).2.symm⟩
  obtain ⟨-, rfl⟩ := lift_ok loaded
  obtain ⟨e, read, refused⟩ | ⟨rules, between, read, rest⟩ := cases_of_bind rest
  · rw [run_lift] at read
    exact .inl ⟨⟨e, refused⟩, (Prod.mk.inj read).2.symm⟩
  obtain ⟨-, rfl⟩ := lift_ok read
  cases keepIds with
  | false => exact .inr ⟨rules, _, rest⟩
  | true => exact .inr ⟨rules, between.issued, rest⟩

theorem importRules_failed {keepIds : Bool}
    (configured : ((Work.settings around config).run session).1 = .ok settings)
    (sound : session.Sound settings.database)
    (ran : (importRules around config path keepIds).run session = (result, session')) (failed : Failed result) :
    session'.ask settings.database Store.list = session.ask settings.database Store.list := by
  obtain ⟨-, rfl⟩ | ⟨rules, n, rest⟩ := importRules_cases ran
  · rfl
  · have same := ask_of_finished (fun _ => .ok (.imported rules.length)) (configured_issued configured n) sound
      (Store.insertAll_allOrNothing rules true) rest (fun _ _ => rfl) fun _ done => absurd rfl (done ▸ failed)
    exact same

/-- An import that was made is confirmed, and the program ends well. -/
theorem importRules_shown {keepIds : Bool}
    (ran : (importRules around config path keepIds).run session = (.ok report, session')) :
    report.present.ending = .done 0 := by
  obtain ⟨⟨e, refused⟩, -⟩ | ⟨rules, n, rest⟩ := importRules_cases ran
  · cases refused
  · obtain ⟨_, _, -, last⟩ := ok_of_bind rest
    cases last
    exact present_imported rules.length

theorem run_rulesIn (path : Path) (session : Session) :
    (Work.rulesIn path).run session =
      (((Document.loadBundle session.files path none true).mapError Error.ofLoad).map (·.rules), session) := by
  unfold Work.rulesIn
  simp only [run_bind, run_get, run_lift]
  cases Document.loadBundle session.files path none true <;> rfl

theorem verifyRules_unchanged {file : Option Path}
    (configured : ((Work.settings around config).run session).1 = .ok settings)
    (sound : session.Sound settings.database)
    (ran : (verifyRules around config file).run session = (result, session')) :
    session'.ask settings.database Store.list = session.ask settings.database Store.list := by
  unfold verifyRules at ran
  have examined {rules : List Rule} {between : Session} (rest : (do
      let failures ← Work.lift .verify (Rule.verify rules)
      return .verified ((rules.map (·.examples.length)).foldl (· + ·) 0) failures : Work Report).run between =
        (result, session')) : session' = between := by
    obtain ⟨e, verified, -⟩ | ⟨failures, last, verified, answered⟩ := cases_of_bind rest
    · rw [run_lift] at verified
      exact (Prod.mk.inj verified).2.symm
    · cases answered
      exact (lift_ok verified).2
  cases file with
  | none =>
    obtain ⟨e, worked, -⟩ | ⟨rules, between, worked, rest⟩ := cases_of_bind ran <;>
      rw [run_onRules configured] at worked
    · exact ask_withStore sound Store.list_allOrNothing worked fun _ _ => trivial
    · exact examined rest ▸ ask_withStore sound Store.list_allOrNothing worked fun _ _ => trivial
  | some file =>
    -- Rules that come from a file are examined without the store.
    obtain ⟨e, loaded, -⟩ | ⟨rules, between, loaded, rest⟩ := cases_of_bind ran <;>
      rw [run_rulesIn] at loaded
    · rw [← (Prod.mk.inj loaded).2]
    · rw [examined rest, ← (Prod.mk.inj loaded).2]

/-- Writing an exported file somewhere else than over the database leaves the list as it is. -/
theorem exportRules_unchanged
    (configured : ((Work.settings around config).run session).1 = .ok settings)
    (sound : session.Sound settings.database) (apart : path.place ≠ settings.database.place)
    (ran : (exportRules around config path).run session = (result, session')) :
    session'.ask settings.database Store.list = session.ask settings.database Store.list := by
  obtain ⟨e, worked, -⟩ | ⟨rules, between, worked, rfl, -⟩ := exportRules_cases configured ran
  · exact ask_withStore sound Store.list_allOrNothing worked fun _ _ => trivial
  rw [← ask_withStore sound Store.list_allOrNothing worked fun _ _ => trivial]
  obtain ⟨opened, s, listed, rfl⟩ := withStore_ok worked
  have database := sound.database opened
  have usable := Store.usable_prepared (Session.storeAt_medium session settings.database |>.trans database)
  have closed : (Store.close.run s).2.medium = .database := by
    rw [Store.run_list usable] at listed
    exact (Prod.mk.inj listed).2 ▸ usable.medium
  -- The file that is written stands elsewhere, so the database is found where it was.
  have placed := Store.placed_afterOpening database
  have again := placed.changes (Document.changes_writeText _ path (Document.textOfRules rules))
    (by simpa using apart.symm)
  exact Session.ask_of_placed (Session.find?_keep session settings.database _) closed placed again Store.list

/-! ## All commands on the list -/

/-- The commands on the list of rules. -/
def OnList : Command → Prop
  | .list _ | .add .. | .update .. | .delete _ | .toggle .. | .importFile .. | .exportFile _ | .verify _ => True
  | _ => False

/-- The commands that name a rule when they confirm what was done. -/
def NamesRule : Command → Prop
  | .add .. | .update .. | .delete _ | .toggle .. => True
  | _ => False

variable {command : Command}

theorem ruleList_unchanged {enabledOnly : Bool}
    (configured : ((Work.settings around config).run session).1 = .ok settings)
    (sound : session.Sound settings.database)
    (ran : (perform around config (.list enabledOnly)).run session = (result, session')) :
    session'.ask settings.database Store.list = session.ask settings.database Store.list := by
  have atomic : Store.AllOrNothing (if enabledOnly then Store.enabled else Store.list) fun _ => True := by
    cases enabledOnly with
    | false => exact Store.list_allOrNothing
    | true => exact Store.enabled_allOrNothing
  exact ask_of_finished (fun rules => .ok (.ruleList rules)) configured sound atomic ran (fun _ _ => rfl)
    fun _ _ => trivial

/-- A command on the list that fails has left it alone. -/
theorem perform_failed (onList : command.OnList)
    (configured : ((Work.settings around config).run session).1 = .ok settings)
    (sound : session.Sound settings.database)
    (apart : ∀ path, command = .exportFile path → path.place ≠ settings.database.place)
    (ran : (perform around config command).run session = (result, session')) (failed : Failed result) :
    session'.ask settings.database Store.list = session.ask settings.database Store.list := by
  cases command with
  | check | fetch | merge | build | version => cases onList
  | list => exact ruleList_unchanged configured sound ran
  | add => exact addRule_failed configured sound ran failed
  | update => exact updateRule_failed configured sound ran failed
  | delete id =>
    refine ask_of_finished (fun found => .ok (.deleted id found)) configured sound (Store.delete_allOrNothing id) ran
      (fun _ _ => rfl) fun found done => ?_
    cases found with
    | false => rfl
    | true => exact absurd rfl (done ▸ failed)
  | toggle id enabled =>
    exact ask_of_finished (fun _ => .ok (.toggled id enabled)) configured sound
      (Store.change_allOrNothing _ _ _ _) ran (fun _ _ => rfl) fun _ done => absurd rfl (done ▸ failed)
  | importFile => exact importRules_failed configured sound ran failed
  | exportFile path => exact exportRules_unchanged configured sound (apart path rfl) ran
  | verify => exact verifyRules_unchanged configured sound ran

/-- How the program ends is what the report says, if it can be shown. -/
theorem present_cases (report : Report) :
    report.present.ending = .done report.code ∨ ∃ e, report.present.ending = .failed (.markup e) := by
  unfold Report.present
  rcases Message.renderAll report.messages with ⟨output, _ | e⟩
  · exact .inl rfl
  · exact .inr ⟨e, rfl⟩

/-- A command on the list that ends the program with another code than zero leaves the list as it is, or it names a
rule, and has done all of its work before the name turns out to be no markup. -/
theorem runCommand_failed (onList : command.OnList)
    (configured : ((Work.settings around config).run session).1 = .ok settings)
    (sound : session.Sound settings.database)
    (apart : ∀ path, command = .exportFile path → path.place ≠ settings.database.place) {outcome : Outcome}
    (started : runCommand around config command session = (outcome, session')) (failed : outcome.ending.code ≠ 0) :
    session'.ask settings.database Store.list = session.ask settings.database Store.list ∨
      command.NamesRule ∧ ∃ report e, (perform around config command).run session = (.ok report, session') ∧
        report.code = 0 ∧ outcome.ending = .failed (.markup e) := by
  unfold runCommand at started
  split at started
  · cases started
    exact .inl rfl
  rcases performed : (perform around config command).run session with ⟨result, after⟩
  rw [performed] at started
  cases result with
  | error e =>
    have same : session' = after := by
      dsimp only at started
      split at started <;> exact (Prod.mk.inj started).2.symm
    exact .inl (same ▸ perform_failed onList configured sound apart performed trivial)
  | ok report =>
    cases started
    by_cases done : report.code = 0
    · obtain ⟨e, unshown⟩ : ∃ e, report.present.ending = .failed (.markup e) := by
        refine (present_cases report).resolve_left fun shown => failed ?_
        rw [shown, done]
        rfl
      cases command with
      | check | fetch | merge | build | version => cases onList
      | list => exact .inl (ruleList_unchanged configured sound performed)
      | add | update | delete | toggle => exact .inr ⟨trivial, report, e, rfl, done, unshown⟩
      | importFile => exact absurd (importRules_shown performed) (by rw [unshown]; exact nofun)
      | exportFile path => exact .inl (exportRules_unchanged configured sound (apart path rfl) performed)
      | verify => exact .inl (verifyRules_unchanged configured sound performed)
    · exact .inl (perform_failed onList configured sound apart performed done)

/-- A run that ends with another code than zero leaves the list as it is, whatever the words and the files are. The one
exception is a command that names a rule: it may have done all of its work before the name turns out to be no markup.
An export is not to write over the database itself. Words that ask for no command, those that are refused among them,
change nothing at all. -/
theorem run_failed (around : Surroundings) {words : List Text} {outcome : Outcome}
    (ran : (run around words).run session = (outcome, session')) (failed : outcome.ending.code ≠ 0) :
    ((∀ config command, read words ≠ .ok ⟨config, some command⟩) → session' = session) ∧
      ∀ config command settings, read words = .ok ⟨config, some command⟩ → command.OnList →
        ((Work.settings around config).run session).1 = .ok settings → session.Sound settings.database →
        (∀ path, command = .exportFile path → path.place ≠ settings.database.place) →
        session'.ask settings.database Store.list = session.ask settings.database Store.list ∨
          command.NamesRule ∧ ∃ report e, (perform around config command).run session = (.ok report, session') ∧
            report.code = 0 ∧ outcome.ending = .failed (.markup e) := by
  refine ⟨fun none => ?_, fun config command settings asked onList configured sound apart => ?_⟩
  · unfold run at ran
    split at ran
    · cases ran
      rfl
    · cases ran
      rfl
    next config command asked => exact absurd asked (none config command)
  · have started : runCommand around config command session = (outcome, session') := by
      rw [← ran]
      unfold run
      rw [asked]
      rfl
    exact runCommand_failed onList configured sound apart started failed

def plainWords (words : List String) : List Text := (["--config", "c.yaml", "rules"] ++ words).map Text.of

/-- An import of a rule that is there already. -/
def plainRepeated : Outcome × Session :=
  (run plainSurroundings (plainWords ["import", "r.json", "--keep-ids"])).run plainStored

theorem run_failed_taken :
    plainRepeated.1.ending = .done 1 ∧
      plainRepeated.2.ask plainDatabase Store.list = .ok [Rule.letterRule 0x61 0x62] := by
  obtain ⟨settings, configured, database⟩ := plainStored_configured
  have asked : read (plainWords ["import", "r.json", "--keep-ids"]) =
      .ok ⟨plainConfig, some (.importFile (.ofText (Text.of "r.json")) true)⟩ := by decide +kernel
  have ending : plainRepeated.1.ending = .done 1 := by decide +kernel
  have failed : plainRepeated.1.ending.code ≠ 0 := by
    rw [ending]
    decide
  have kept := ((run_failed plainSurroundings (Prod.mk.eta (p := plainRepeated)).symm failed).2 _ _ settings asked
    trivial configured (database ▸ plainStored_sound) fun _ => nofun).resolve_right fun named => named.1
  have before : plainStored.ask plainDatabase Store.list = .ok [Rule.letterRule 0x61 0x62] := by decide +kernel
  rw [database, before] at kept
  exact ⟨ending, kept⟩

/-- The rule is added, but its name cannot be shown. -/
example :
    let ended := (run plainSurroundings (plainWords ["add", "--id", "[/]", "-p", "a", "-s", "b"])).run
      (plainSession plainText)
    ended.1.ending = .failed (.markup .nothingToClose) ∧
      (ended.2.ask plainDatabase Store.list).map (·.map (·.id)) = .ok [Text.of "[/]"] := by
  decide +kernel

end Command
end UrlRules
