import UrlRules.Proofs.Command.Failure
import UrlRules.Proofs.Command.Words

/-!
# Updating a rule

What changes make of a rule passes its check exactly if what they give is right (`valid_edit_iff`), so a rule that is
updated still has one behaviour, and the store replaces it in its place (`run_updateIn`, `update_of_keeps`).
Altogether an update that is `Accepted` changes one rule of the list, and any other leaves the list as it is
(`update_listed`).
-/
namespace UrlRules

open Text

/-! ## Changes of a rule -/

namespace RuleChanges

/-- What is given for a rule is put in place of what it has. One behaviour takes the place of the other. -/
def edit (changes : RuleChanges) (r : Rule) : Rule :=
  { r with
    pattern := changes.pattern.getD r.pattern
    substitution := if changes.removeParams = [] then changes.substitution <|> r.substitution else none
    removeParams :=
      if changes.removeParams = [] then if changes.substitution.isSome then [] else r.removeParams
      else changes.removeParams }

/-- The texts that are given. -/
def texts (changes : RuleChanges) : List Text :=
  changes.pattern.toList ++ changes.substitution.toList ++ changes.removeParams

/-- The changes with the names as they come back from the store, where surrogate pairs are joined. -/
def joined (changes : RuleChanges) : RuleChanges :=
  { changes with removeParams := changes.removeParams.map joinPairs }

/-- A pattern that is given can be read, and names that are given are not empty. -/
structure Right (changes : RuleChanges) : Prop where
  pattern : ∀ pattern ∈ changes.pattern, pattern ≠ [] ∧ ∃ p, Pattern.read pattern = .ok p
  names : ∀ name ∈ changes.removeParams, name ≠ []

variable {changes : RuleChanges} {r : Rule}

@[simp] theorem edit_id (changes : RuleChanges) (r : Rule) : (changes.edit r).id = r.id := rfl

/-- A right rule is right after changes exactly if these are. In particular it has one behaviour, whichever one it had
and whichever one is given. -/
theorem valid_edit_iff (valid : r.Valid) : (changes.edit r).Valid ↔ changes.Right := by
  obtain ⟨pattern, substitution, names⟩ := changes
  constructor
  · intro edited
    refine ⟨fun given same => ?_, fun name member => ?_⟩
    · obtain rfl : pattern = some given := same
      exact ⟨edited.pattern_ne_nil, edited.pattern_reads⟩
    · have some : names ≠ [] := List.ne_nil_of_mem member
      exact edited.names_ne_nil name (by simpa [edit, some] using member)
  · intro right
    have readable : pattern.getD r.pattern ≠ [] ∧ ∃ p, Pattern.read (pattern.getD r.pattern) = .ok p := by
      cases pattern with
      | none => exact ⟨valid.pattern_ne_nil, valid.pattern_reads⟩
      | some given => exact right.pattern given rfl
    refine ⟨valid.id_ne_nil, readable.1, readable.2, ?_, ?_⟩
    · cases names with
      | cons name names => simp [edit]
      | nil =>
        cases substitution with
        | some template => simp [edit]
        | none => simpa [edit] using valid.one_behaviour
    · cases names with
      | cons name names => simpa [edit] using right.names
      | nil =>
        cases substitution with
        | some template => simp [edit]
        | none => simpa [edit] using valid.names_ne_nil

theorem texts_edit : (changes.edit r).texts ⊆ r.texts ++ changes.texts := by
  obtain ⟨pattern, substitution, names⟩ := changes
  intro s
  simp only [Rule.texts, edit, texts, List.mem_append, List.mem_cons]
  cases pattern <;> cases substitution <;> cases names <;> grind

/-- What is kept as it is are the pattern and the template, from the rule or from the changes. -/
theorem textsOf_edit (apart : ¬changes.Clashing) :
    Row.textsOf (changes.edit r) ⊆ Row.textsOf r ++ (changes.pattern.toList ++ changes.substitution.toList) ∧
      changes.pattern.toList ++ changes.substitution.toList ⊆ Row.textsOf (changes.edit r) := by
  obtain ⟨pattern, substitution, names⟩ := changes
  cases substitution with
  | none => cases names <;> cases pattern <;> simp [Row.textsOf, edit]
  | some template =>
    obtain rfl : names = [] := by simpa [Clashing] using apart
    cases pattern <;> simp [Row.textsOf, edit]

/-- The names of a recorded rule are joined already, so only those that are given matter. -/
theorem joined_edit (recorded : r.Recorded) : (changes.edit r).joined = changes.joined.edit r := by
  obtain ⟨pattern, substitution, names⟩ := changes
  have own : r.removeParams.map joinPairs = r.removeParams := congrArg Rule.removeParams recorded.joined_eq
  have examples : r.examples.map Example.joined = r.examples := congrArg Rule.examples recorded.joined_eq
  cases names with
  | cons name names => simp [edit, joined, Rule.joined, examples]
  | nil => cases substitution <;> simp [edit, joined, Rule.joined, own, examples]

end RuleChanges

namespace Command

variable {around : Surroundings} {session session' : Session} {settings : Config.Settings} {rules : List Rule}
variable {id : Text} {changes : RuleChanges}

/-! ## The work on the store -/

/-- A right rule is put in the place of the one with its id, with its pairs joined. -/
theorem update_of_keeps {s : Store} {r : Rule} (keeps : s.Keeps rules) (written : r.Written)
    (encodable : Row.unencodable? (Row.textsOf r ++ [r.id]) = none) :
    ((Store.update r).run s).1 = (if r.id ∈ rules.map (·.id) then .ok () else .error (.notFound r.id)) ∧
      ((Store.update r).run s).2.Keeps
        (rules.map fun other => if other.id = r.id then r.joined.unsourced else other) := by
  obtain ⟨kept, agrees⟩ := Store.withRule_of_written written encodable
  exact Store.change_of_keeps keeps (.update r.id) encodable (·.withRule r) (fun _ => r.joined.unsourced) agrees
    fun _ _ _ => ⟨rfl, kept⟩

/-- An update of a rule that is there. It gives one behaviour at most, and what it gives is right. -/
structure Admissible (rules : List Rule) (id : Text) (changes : RuleChanges) : Prop where
  stored : id ∈ rules.map (·.id)
  apart : ¬changes.Clashing
  right : changes.Right

/-- An admissible update with a pattern and a template that can be kept, if it gives them. -/
structure Accepted (rules : List Rule) (id : Text) (changes : RuleChanges) : Prop
    extends Admissible rules id changes where
  unicode : ∀ s ∈ changes.pattern.toList ++ changes.substitution.toList, s.IsUnicode

/-- The list with one rule changed. -/
def updated (rules : List Rule) (id : Text) (changes : RuleChanges) : List Rule :=
  rules.map fun r => if r.id = id then changes.joined.edit r else r

theorem changed_draft (changes : RuleChanges) (r : Rule) : changed changes r.draft = (changes.edit r).draft := by
  obtain ⟨pattern, substitution, names⟩ := changes
  cases pattern <;> cases substitution <;> cases names <;> rfl

theorem run_updateIn {s : Store} (keeps : s.Keeps rules) (unicode : id.IsUnicode) :
    (updateIn id changes).run s =
      match rules.find? fun r => r.id = id with
      | none => (.error (.notFound id), s.opened)
      | some r =>
          match (changes.edit r).draft.check with
          | .error e => (.ok (.error e), s.opened)
          | .ok _ =>
              let ran := (Store.update (changes.edit r)).run s.opened
              (ran.1.map .ok, ran.2) := by
  have found : (Store.find id).run s = (.ok (rules.find? fun r => r.id = id), s.opened) :=
    Prod.ext (Store.find_of_keeps keeps unicode) (Store.find_leaves keeps.usable id)
  unfold updateIn
  rw [run_bind, found]
  cases rules.find? fun r => r.id = id with
  | none => rfl
  | some r =>
    dsimp only
    rw [changed_draft]
    cases checked : (changes.edit r).draft.check with
    | error e => rfl
    | ok r' =>
      obtain ⟨-, rfl⟩ := Rule.check_draft_eq_ok.mp checked
      dsimp only
      rw [run_bind]
      rcases (Store.update (changes.edit r)).run s.opened with ⟨result, s'⟩
      cases result <;> rfl

section

variable {s : Store} (keeps : s.Keeps rules) (bounded : ∀ t ∈ id :: changes.texts, t.Bounded)
include keeps bounded

/-- The changed rule is written, and is kept if the texts of the changes can be. -/
theorem written_edit {r : Rule} (member : r ∈ rules) (valid : (changes.edit r).Valid) : (changes.edit r).Written := by
  have written := (keeps.kept r member).recorded.written
  refine ⟨⟨valid, written.typed.examples_text⟩, fun t inside => ?_⟩
  rcases List.mem_append.mp (RuleChanges.texts_edit inside) with old | new
  · exact written.bounded t old
  · exact bounded t (List.mem_cons_of_mem _ new)

theorem unencodable?_edit {r : Rule} (member : r ∈ rules) (apart : ¬changes.Clashing) :
    Row.unencodable? (Row.textsOf (changes.edit r) ++ [r.id]) = none ↔
      ∀ t ∈ changes.pattern.toList ++ changes.substitution.toList, t.IsUnicode := by
  obtain ⟨among, given⟩ := RuleChanges.textsOf_edit (r := r) apart
  have recorded := (keeps.kept r member).recorded
  constructor
  · intro encodable t inside
    have scalar := List.find?_eq_none.mp encodable t (List.mem_append_left _ (given inside))
    have code := bounded t (List.mem_cons_of_mem _ (List.mem_append_left _ inside))
    exact code.unicode (by simpa using scalar)
  · intro unicode
    refine Store.unencodable?_of_unicode fun t inside => ?_
    rcases List.mem_append.mp inside with text | named
    · rcases List.mem_append.mp (among text) with old | new
      · exact Store.unicode_of_recorded recorded t old
      · exact unicode t new
    · rw [List.mem_singleton.mp named]
      exact recorded.id_unicode

theorem updateIn_of_accepted (accepted : Accepted rules id changes) :
    ((updateIn id changes).run s).1 = .ok (.ok ()) ∧
      ((updateIn id changes).run s).2.Keeps (updated rules id changes) := by
  obtain ⟨⟨stored, apart, right⟩, unicode⟩ := accepted
  obtain ⟨r, found⟩ : ∃ r, rules.find? (fun r => r.id = id) = some r := by
    simpa [← Option.isSome_iff_exists] using stored
  have member := List.mem_of_find?_eq_some found
  obtain rfl : r.id = id := by simpa using List.find?_some found
  have kept := keeps.kept r member
  have valid : (changes.edit r).Valid := (RuleChanges.valid_edit_iff kept.recorded.valid).mpr right
  have checked : (changes.edit r).draft.check = .ok (changes.edit r) := Rule.check_draft_eq_ok.mpr ⟨valid, rfl⟩
  have encodable := (unencodable?_edit keeps bounded member apart).mpr unicode
  obtain ⟨answer, keeps'⟩ :=
    update_of_keeps keeps.opened (written_edit keeps bounded member valid) encodable
  have same : updated rules r.id changes =
      rules.map fun other => if other.id = r.id then (changes.edit r).joined.unsourced else other := by
    refine List.map_congr_left fun other inside => ?_
    by_cases named : other.id = r.id
    · obtain rfl := List.inj_on_of_nodup_map keeps.distinct inside member named
      have unsourced : (changes.joined.edit other).unsourced = changes.joined.edit other := by
        rw [Rule.unsourced, ← kept.source]
        rfl
      rw [if_pos rfl, if_pos rfl, RuleChanges.joined_edit kept.recorded, unsourced]
    · rw [if_neg named, if_neg named]
  rw [run_updateIn keeps kept.recorded.id_unicode, found]
  simp only [checked]
  rw [answer, RuleChanges.edit_id, if_pos stored, same]
  exact ⟨rfl, keeps'⟩

theorem accepted_of_updateIn (apart : ¬changes.Clashing) (done : ((updateIn id changes).run s).1 = .ok (.ok ())) :
    Accepted rules id changes := by
  have scalar : isScalar id = true := by
    by_contra lone
    have refused := Store.run_find_unencodable keeps.usable (Bool.not_eq_true _ ▸ lone)
    unfold updateIn at done
    rw [run_bind_of_error (by rw [refused])] at done
    cases done
  have unicode := (bounded id (List.mem_cons_self ..)).unicode scalar
  rw [run_updateIn keeps unicode] at done
  cases found : rules.find? fun r => r.id = id with
  | none =>
    rw [found] at done
    cases done
  | some r =>
    rw [found] at done
    have member := List.mem_of_find?_eq_some found
    obtain rfl : r.id = id := by simpa using List.find?_some found
    cases checked : (changes.edit r).draft.check with
    | error e =>
      simp only [checked] at done
      cases done
    | ok r' =>
      obtain ⟨valid, -⟩ := Rule.check_draft_eq_ok.mp checked
      simp only [checked] at done
      refine ⟨⟨List.mem_map_of_mem member, apart,
        (RuleChanges.valid_edit_iff (keeps.kept r member).recorded.valid).mp valid⟩, ?_⟩
      refine (unencodable?_edit keeps bounded member apart).mp ?_
      cases encodable : Row.unencodable? (Row.textsOf (changes.edit r) ++ [r.id]) with
      | none => rfl
      | some text =>
        rw [Store.update, RuleChanges.edit_id, Store.run_change_unencodable keeps.usable.opened _ _ encodable]
          at done
        cases done

theorem updateIn_reachable (reachable : s.Reachable) (connected : s.opened = s) :
    ((updateIn id changes).run s).2.Reachable := by
  by_cases scalar : isScalar id = true
  · rw [run_updateIn keeps ((bounded id (List.mem_cons_self ..)).unicode scalar), connected]
    cases found : rules.find? fun r => r.id = id with
    | none => exact reachable
    | some r =>
      dsimp only
      cases checked : (changes.edit r).draft.check with
      | error e => exact reachable
      | ok r' =>
        obtain ⟨valid, -⟩ := Rule.check_draft_eq_ok.mp checked
        have written := written_edit keeps bounded (List.mem_of_find?_eq_some found) valid
        have operated : (Store.Operation.onStore (.update (changes.edit r)) s).2.Reachable :=
          .operate reachable written
        rwa [Store.Operation.onStore, Store.Operation.perform, Store.run_done] at operated
  · have refused := Store.run_find_unencodable keeps.usable (Bool.not_eq_true _ ▸ scalar)
    unfold updateIn
    rw [run_bind, refused, connected]
    exact reachable

end

/-! ## The update in a session -/

/-- The words ask for a command, and it does its work. -/
def Succeeds (around : Surroundings) (words : List Text) (session : Session) : Prop :=
  ∃ config command report, read words = .ok ⟨config, some command⟩ ∧
    ((perform around config command).run session).1 = .ok report

theorem run_updateRule {config : Option Path}
    (configured : ((Work.settings around config).run session).1 = .ok settings)
    (opened : (Store.prepare.run (session.storeAt settings.database)).1 = .ok ()) :
    (updateRule around config id changes).run session =
      let ran := (updateIn id changes).run (Store.prepare.run (session.storeAt settings.database)).2
      (match ran.1 with
        | .error e => .error (.store e)
        | .ok (.error e) => .error (.rule e)
        | .ok (.ok _) => .ok (.updated id),
        session.keep settings.database (Store.close.run ran.2).2) := by
  unfold updateRule
  rw [run_bind, run_onRules configured, run_withStore opened]
  rcases (updateIn id changes).run (Store.prepare.run (session.storeAt settings.database)).2 with ⟨result, s⟩
  rcases result with e | e | _ <;> rfl

/-- A command that needs no file leaves the session that its work leaves. -/
theorem runCommand_session {config : Option Path} {command : Command} (free : neededFile? command = none)
    (session : Session) :
    (runCommand around config command session).2 = ((perform around config command).run session).2 := by
  unfold runCommand
  rw [free]
  dsimp only [Option.filter]
  rcases (perform around config command).run session with ⟨result, session'⟩
  cases result with
  | ok report => rfl
  | error e =>
    dsimp only
    split <;> rfl

theorem prepare_opened {s : Store} (medium : s.medium = .database) :
    (Store.prepare.run s).2.opened = (Store.prepare.run s).2 := by
  rw [Store.run_prepare medium]
  rfl

/-- The session after an update is that after its work, or the one from before. -/
theorem run_updateWords (around : Surroundings) (config : Option Text) (id : Text) (changes : RuleChanges)
    (session : Session) :
    ((run around (updateWords config id changes)).run session).2 =
      if changes.Clashing then session
      else ((updateRule around (config.map Path.ofText) id changes).run session).2 := by
  unfold run
  rw [read_updateWords]
  by_cases clashing : changes.Clashing
  · rw [if_pos clashing, if_pos clashing]
    rfl
  · have free : neededFile? (.update id changes) = none := rfl
    rw [if_neg clashing, if_neg clashing]
    exact runCommand_session free session

section

variable {config : Option Text}
  (configured : ((Work.settings around (config.map Path.ofText)).run session).1 = .ok settings)
  (opened : (Store.prepare.run (session.storeAt settings.database)).1 = .ok ())
  (keeps : (Store.prepare.run (session.storeAt settings.database)).2.Keeps rules)
  (bounded : ∀ t ∈ id :: changes.texts, t.Bounded)
include configured opened keeps bounded

theorem succeeds_iff : Succeeds around (updateWords config id changes) session ↔ Accepted rules id changes := by
  constructor
  · rintro ⟨config', command, report, asked, done⟩
    rw [read_updateWords] at asked
    by_cases clashing : changes.Clashing
    · rw [if_pos clashing] at asked
      cases asked
    · rw [if_neg clashing] at asked
      cases asked
      refine accepted_of_updateIn keeps bounded clashing ?_
      rw [perform, run_updateRule configured opened] at done
      rcases result : ((updateIn id changes).run (Store.prepare.run (session.storeAt settings.database)).2).1
        with e | e | _
      · simp [result] at done
      · simp [result] at done
      · rfl
  · intro accepted
    obtain ⟨answer, -⟩ := updateIn_of_accepted keeps bounded accepted
    refine ⟨config.map Path.ofText, .update id changes, .updated id, ?_, ?_⟩
    · rw [read_updateWords, if_neg accepted.apart]
    · rw [perform, run_updateRule configured opened]
      simp only [answer]

end

/-- An update of the list. The update is made exactly if it is accepted: the rule is there, there are not both a
template and parameters, the pattern can be read and is not empty, no name is empty, and pattern and template are
Unicode. The list afterwards has that rule changed in its place, and no other one; the rule has the pattern and the
behaviour that are given, and else what it had. Otherwise the list is as it was. Either way all its rules are right, so
each has one behaviour, and the session is one that can be worked on as before. -/
theorem update_listed (around : Surroundings) {config : Option Text}
    (configured : ((Work.settings around (config.map Path.ofText)).run session).1 = .ok settings)
    (sound : session.Sound settings.database) (listed : session.ask settings.database Store.list = .ok rules)
    (bounded : ∀ t ∈ id :: changes.texts, t.Bounded) :
    let words := updateWords config id changes
    let after := ((run around words).run session).2
    (Succeeds around words session ↔ Accepted rules id changes) ∧
      (Accepted rules id changes →
        after.ask settings.database Store.list = .ok (updated rules id changes)) ∧
      (¬Accepted rules id changes → after.ask settings.database Store.list = .ok rules) ∧
      after.Sound settings.database ∧
      ∀ list, after.ask settings.database Store.list = .ok list → ∀ r ∈ list, r.Valid := by
  intro words after
  have opened := Session.prepared_of_ask listed
  obtain ⟨database, rules', keeps⟩ := sound.prepared opened
  rw [Session.ask_of_prepared opened, Store.list_of_keeps keeps] at listed
  obtain rfl := Except.ok.inj listed
  have succeeds := succeeds_iff configured opened keeps bounded
  have medium := (Session.storeAt_medium session settings.database).trans database
  have same : after = if changes.Clashing then session else _ := run_updateWords around config id changes session
  have sound' : after.Sound settings.database := by
    rw [same]
    split
    · exact sound
    · rw [run_updateRule configured opened]
      exact Session.sound_keep session settings.database
        (updateIn_reachable keeps bounded (sound.reachable opened) (prepare_opened medium))
  refine ⟨succeeds, fun accepted => ?_, fun refused => ?_, sound', fun list shown => ?_⟩
  · rw [same, if_neg accepted.apart, run_updateRule configured opened]
    exact (Session.ask_keep database (Store.close_of_keeps (updateIn_of_accepted keeps bounded accepted).2)).1
  · have before : session.ask settings.database Store.list = .ok rules' := by
      rw [Session.ask_of_prepared opened, Store.list_of_keeps keeps]
    rw [← before, same]
    split
    · rfl
    next apart =>
      rcases ran : (updateRule around (config.map Path.ofText) id changes).run session with ⟨result, session'⟩
      refine updateRule_failed configured sound ran ?_
      cases result with
      | error e => trivial
      | ok report =>
        -- Work that is done is that of an accepted update.
        have asked : read words = .ok ⟨config.map Path.ofText, some (.update id changes)⟩ := by
          rw [read_updateWords, if_neg apart]
        exact absurd (succeeds.mp ⟨_, _, report, asked, by rw [perform, ran]⟩) refused
  · obtain ⟨-, rules'', keeps'⟩ := sound'.prepared (Session.prepared_of_ask shown)
    rw [Session.ask_of_prepared (Session.prepared_of_ask shown), Store.list_of_keeps keeps'] at shown
    obtain rfl := Except.ok.inj shown
    exact fun r member => (keeps'.kept r member).recorded.valid

theorem plainStored_listed : plainStored.ask plainDatabase Store.list = .ok [Rule.letterRule 0x61 0x62] := by
  decide +kernel

/-- The configuration is named on the command line. -/
theorem plainUpdate_configured :
    ∃ settings, ((Work.settings plainSurroundings ((some (Text.of "c.yaml")).map Path.ofText)).run plainStored).1 =
      .ok settings ∧ settings.database = plainDatabase := plainStored_configured

def plainUpdate (changes : RuleChanges) : List Text := updateWords (some (Text.of "c.yaml")) [0x61] changes

/-- A rule with a template is given another pattern and a parameter. -/
theorem update_listed_plain :
    let changes : RuleChanges := ⟨some [0x62], none, [[0x63]]⟩
    let after := ((run plainSurroundings (plainUpdate changes)).run plainStored).2
    Accepted [Rule.letterRule 0x61 0x62] [0x61] changes ∧
      Succeeds plainSurroundings (plainUpdate changes) plainStored ∧
      after.ask plainDatabase Store.list =
        .ok [{ Rule.letterRule 0x61 0x62 with
          pattern := [0x62], substitution := none, removeParams := [[0x63]] }] ∧
      after.Sound plainDatabase := by
  intro changes after
  obtain ⟨settings, configured, database⟩ := plainUpdate_configured
  have right : changes.Right := by
    refine ⟨fun pattern given => ?_, fun name member => ?_⟩
    · obtain rfl := Option.some.inj given
      exact ⟨by decide, _, by cbv⟩
    · obtain rfl := List.mem_singleton.mp member
      decide
  have accepted : Accepted [Rule.letterRule 0x61 0x62] [0x61] changes :=
    ⟨⟨by decide, by decide, right⟩, by decide⟩
  have bounded : ∀ t ∈ [0x61] :: changes.texts, Text.Bounded t := by decide
  obtain ⟨succeeds, edited, -, sound, -⟩ := update_listed plainSurroundings configured (database ▸ plainStored_sound)
    (database ▸ plainStored_listed) bounded
  rw [database] at edited sound
  exact ⟨accepted, succeeds.mpr accepted, edited accepted, sound⟩

/-- Two updates that are admissible. The pattern of the first is a lone surrogate, which cannot be kept, so the list is
as it was. The parameter of the second is a surrogate pair, which comes back as one character. -/
theorem update_surrogates :
    let lone : RuleChanges := ⟨some [0xDCFF], none, []⟩
    let pair : RuleChanges := ⟨none, none, [[0xD83D, 0xDE00]]⟩
    let rules := [Rule.letterRule 0x61 0x62]
    plainStored.ask plainDatabase Store.list = .ok rules ∧
      Admissible rules [0x61] lone ∧ ¬Succeeds plainSurroundings (plainUpdate lone) plainStored ∧
      ((run plainSurroundings (plainUpdate lone)).run plainStored).2.ask plainDatabase Store.list = .ok rules ∧
      Admissible rules [0x61] pair ∧
      ((run plainSurroundings (plainUpdate pair)).run plainStored).2.ask plainDatabase Store.list =
        .ok [{ Rule.letterRule 0x61 0x62 with substitution := none, removeParams := [[0x1F600]] }] := by
  intro lone pair rules
  obtain ⟨settings, configured, database⟩ := plainUpdate_configured
  have opened := Session.prepared_of_ask plainStored_listed
  obtain ⟨-, rules', keeps⟩ := plainStored_sound.prepared opened
  have listed := plainStored_listed
  rw [Session.ask_of_prepared opened, Store.list_of_keeps keeps] at listed
  obtain rfl := Except.ok.inj listed
  rw [← database] at opened keeps
  have bounded : ∀ t ∈ [0x61] :: lone.texts, Text.Bounded t := by decide
  have succeeds := succeeds_iff configured opened keeps bounded
  have lone_right : lone.Right := by
    refine ⟨fun pattern given => ?_, fun name member => ?_⟩
    · obtain rfl := Option.some.inj given
      exact ⟨by decide, _, by cbv⟩
    · cases member
  have pair_right : pair.Right := by
    refine ⟨fun pattern given => ?_, fun name member => ?_⟩
    · cases given
    · obtain rfl := List.mem_singleton.mp member
      decide
  have refused : ¬Accepted rules [0x61] lone := fun accepted => absurd accepted.unicode (by decide)
  exact ⟨plainStored_listed, ⟨by decide, by decide, lone_right⟩, fun done => refused (succeeds.mp done),
    by decide +kernel, ⟨by decide, by decide, pair_right⟩, by decide +kernel⟩

end Command
end UrlRules
