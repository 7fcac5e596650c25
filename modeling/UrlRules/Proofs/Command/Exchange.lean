import UrlRules.Command.Run
import UrlRules.Proofs.Chain.Omission
import UrlRules.Proofs.Command.Session
import UrlRules.Proofs.Document.File
import UrlRules.Proofs.Store.Ranges

/-!
# Rule files and the store

A rule file that is imported under its own ids stands in front of the list, just as it is loaded, so a URL is
resolved alike by a store that holds nothing else and by the file. And what is exported is loaded and imported as
the list that was exported (`exchange`), if the list can be written and is not too long for a statement
(`exchange_limits`).
-/
namespace UrlRules

open Text

namespace Command

variable {around : Surroundings} {config : Option Path} {session session' : Session} {path : Path}
  {settings : Config.Settings} {rules : List Rule} {data : Json} {report : Report}

theorem lift_ok {ε α : Type} {error : ε → Error} {result : Except ε α} {a : α}
    (ran : (Work.lift error result).run session = (.ok a, session')) : result = .ok a ∧ session' = session := by
  rw [run_lift] at ran
  cases result with
  | error e => cases ran
  | ok b =>
    cases ran
    exact ⟨rfl, rfl⟩

/-- Settings are read without any change. -/
theorem settings_ok (ran : (Work.settings around config).run session = (.ok settings, session')) :
    ((Work.settings around config).run session).1 = .ok settings ∧ session' = session := by
  refine ⟨by rw [ran], ?_⟩
  unfold Work.settings at ran
  obtain ⟨now, between, first, last⟩ := ok_of_bind ran
  obtain ⟨rfl, rfl⟩ := eq_of_get first
  exact (lift_ok last).2

theorem run_settings (configured : ((Work.settings around config).run session).1 = .ok settings) :
    (Work.settings around config).run session = (.ok settings, session) := by
  have ran := Prod.fst_eq_iff.mp configured
  rwa [(settings_ok ran).2] at ran

theorem run_onRules {α : Type} (configured : ((Work.settings around config).run session).1 = .ok settings)
    (action : Store.Action α) :
    (onRules around config action).run session = (Work.withStore settings.database action).run session := by
  unfold onRules
  rw [run_bind, run_settings configured]

/-- An import under the ids of the file adds its rules to the store. -/
theorem run_importKept (configured : ((Work.settings around config).run session).1 = .ok settings)
    (loaded : Document.readJson session.files path = .ok data)
    (read : Document.parse data none true = .ok rules) :
    (importRules around config path true).run session =
      match (Work.withStore settings.database (Store.insertAll rules true)).run session with
      | (.ok _, s) => (.ok (.imported rules.length), s)
      | (.error e, s) => (.error e, s) := by
  unfold importRules
  simp only [run_bind, run_get, loaded, run_lift, Except.mapError, if_true, Document.importRules_none, read]
  rw [if_neg (by simp), run_bind, run_onRules configured]
  rcases (Work.withStore settings.database (Store.insertAll rules true)).run session with ⟨answer, s⟩
  cases answer <;> rfl

theorem importKept_ok (ran : (importRules around config path true).run session = (.ok report, session')) :
    ∃ data rules, Document.readJson session.files path = .ok data ∧ Document.parse data none true = .ok rules := by
  unfold importRules at ran
  obtain ⟨now, between, first, rest⟩ := ok_of_bind ran
  obtain ⟨rfl, rfl⟩ := eq_of_get first
  obtain ⟨data, between, lifted, rest⟩ := ok_of_bind rest
  obtain ⟨loaded, rfl⟩ := lift_ok lifted
  obtain ⟨rules, between, lifted, rest⟩ := ok_of_bind rest
  obtain ⟨imported, rfl⟩ := lift_ok lifted
  exact ⟨data, rules, loaded, Document.importRules_none ▸ imported⟩

/-- An import that succeeds has opened the store and added the rules. -/
theorem importKept_stored (configured : ((Work.settings around config).run session).1 = .ok settings)
    (loaded : Document.readJson session.files path = .ok data) (read : Document.parse data none true = .ok rules)
    (ran : (importRules around config path true).run session = (.ok report, session')) :
    ∃ s, (Store.prepare.run (session.storeAt settings.database)).1 = .ok () ∧
      (Store.insertAll rules true).run (Store.prepare.run (session.storeAt settings.database)).2 = (.ok (), s) ∧
      session' = session.keep settings.database (Store.close.run s).2 := by
  rw [run_importKept configured loaded read] at ran
  rcases stored : (Work.withStore settings.database (Store.insertAll rules true)).run session with ⟨answer, after⟩
  rw [stored] at ran
  cases answer with
  | error e => cases ran
  | ok _ =>
    cases ran
    obtain ⟨opened, s, inserted, kept⟩ := withStore_ok stored
    exact ⟨s, opened, inserted, kept⟩

/-- After an import the store is again one that operations lead to. -/
theorem importKept_sound (configured : ((Work.settings around config).run session).1 = .ok settings)
    (sound : session.Sound settings.database)
    (ran : (importRules around config path true).run session = (.ok report, session')) :
    session'.Sound settings.database := by
  obtain ⟨data, rules, loaded, read⟩ := importKept_ok ran
  obtain ⟨s, opened, inserted, rfl⟩ := importKept_stored configured loaded read ran
  have written := Document.written_of_parse loaded read
  have operated : ((Store.Operation.insertAll rules true).onStore
      (Store.prepare.run (session.storeAt settings.database)).2).2 = s := by
    rw [Store.Operation.onStore, Store.Operation.perform, Store.run_done, inserted]
  exact operated ▸ sound.operate opened written

/-- An export reads the list, and then writes its file. -/
theorem exportRules_cases {result : Except Error Report}
    (configured : ((Work.settings around config).run session).1 = .ok settings)
    (ran : (exportRules around config path).run session = (result, session')) :
    (∃ e, (Work.withStore settings.database Store.list).run session = (.error e, session') ∧ result = .error e) ∨
      ∃ rules between, (Work.withStore settings.database Store.list).run session = (.ok rules, between) ∧
        let wrote := Document.writeText between.files path (Document.textOfRules rules)
        session' = { between with files := wrote.2 } ∧
          result = match wrote.1 with
            | some e => .error (.file e)
            | none => .ok (.exported rules.length path) := by
  unfold exportRules at ran
  obtain ⟨e, worked, same⟩ | ⟨rules, between, worked, rest⟩ := cases_of_bind ran <;>
    rw [run_onRules configured] at worked
  · exact .inl ⟨e, worked, same⟩
  · refine .inr ⟨rules, between, worked, ?_⟩
    rw [run_bind, run_get] at rest
    rcases wrote : Document.writeText between.files path (Document.textOfRules rules) with ⟨failure, files⟩
    simp only [wrote, run_bind, run_set] at rest
    cases failure with
    | none =>
      cases rest
      exact ⟨rfl, rfl⟩
    | some e =>
      cases rest
      exact ⟨rfl, rfl⟩

theorem exportFile_ok (configured : ((Work.settings around config).run session).1 = .ok settings)
    (ran : (exportRules around config path).run session = (.ok report, session')) :
    ∃ rules between, (Work.withStore settings.database Store.list).run session = (.ok rules, between) ∧
      Document.writeText between.files path (Document.textOfRules rules) = (none, session'.files) := by
  obtain ⟨e, -, refused⟩ | ⟨rules, between, listed, rfl, answered⟩ := exportRules_cases configured ran
  · cases refused
  · refine ⟨rules, between, listed, Prod.ext ?_ rfl⟩
    cases wrote : (Document.writeText between.files path (Document.textOfRules rules)).1 with
    | none => rfl
    | some e => simp [wrote] at answered

/-- What is imported stands in front of the list, just as it is loaded. -/
theorem importKept_listed (configured : ((Work.settings around config).run session).1 = .ok settings)
    (sound : session.Sound settings.database)
    (ran : (importRules around config path true).run session = (.ok report, session')) :
    ∃ bundle existing, Document.loadBundle session.files path none true = .ok bundle ∧
      session.ask settings.database Store.list = .ok existing ∧
      session'.ask settings.database Store.list = .ok (bundle.rules ++ existing) ∧
      session'.ask settings.database Store.enabled = .ok (Rule.enabledOnly (bundle.rules ++ existing)) := by
  obtain ⟨data, rules, loaded, read⟩ := importKept_ok ran
  obtain ⟨bundle, bundled, rfl⟩ := Document.loadBundle_of_parse loaded read
  obtain ⟨typed, -⟩ := Document.wellTyped_of_parse read
  obtain ⟨s, opened, inserted, rfl⟩ := importKept_stored configured loaded read ran
  obtain ⟨database, existing, keeps⟩ := sound.prepared opened
  have encodable := Store.encodable_of_insertAll keeps.usable (by rw [inserted])
  have recorded : ∀ r ∈ bundle.rules, r.Recorded := fun r member =>
    Rule.recorded_of_joined (encodable r member).1 (encodable r member).2 (typed r member).1
      ((Document.joined_of_readJson loaded).subset (Document.texts_of_parse read r member))
  have kept := Store.insertAll_added keeps recorded inserted
  rw [Rule.map_unsourced fun r member => (typed r member).2] at kept
  obtain ⟨listed, enabled⟩ := Session.ask_keep database (Store.close_of_keeps kept)
  refine ⟨bundle, existing, bundled, ?_, listed, enabled⟩
  rw [Session.ask_of_prepared opened]
  exact Store.list_of_keeps keeps

/-- The store that is opened takes as many parameters in a statement as the one that is kept. -/
theorem capacity_opened (sound : session.Sound settings.database)
    (opened : (Store.prepare.run (session.storeAt settings.database)).1 = .ok ()) :
    (Store.prepare.run (session.storeAt settings.database)).2.capacity =
      (session.storeAt settings.database).capacity :=
  Store.capacity_prepare ((Session.storeAt_medium session settings.database).trans (sound.database opened))

/-- Rules that can be recorded are imported to a store with an empty list, as many as a statement takes. -/
theorem importKept_of_empty (configured : ((Work.settings around config).run session).1 = .ok settings)
    (sound : session.Sound settings.database) (empty : session.ask settings.database Store.list = .ok [])
    (loaded : Document.readJson session.files path = .ok data) (read : Document.parse data none true = .ok rules)
    (recorded : ∀ r ∈ rules, r.Recorded) (unsourced : ∀ r ∈ rules, r.source = none)
    (distinct : (rules.map (·.id)).Nodup)
    (few : rules.length ≤ (session.storeAt settings.database).capacity.value) :
    ∃ after, (importRules around config path true).run session = (.ok (.imported rules.length), after) ∧
      after.ask settings.database Store.list = .ok rules := by
  have opened := Session.prepared_of_ask empty
  obtain ⟨database, existing, keeps⟩ := sound.prepared opened
  rw [Session.ask_of_prepared opened, Store.list_of_keeps keeps] at empty
  obtain rfl := Except.ok.inj empty
  obtain ⟨inserted, kept⟩ := Store.insertAll_of_empty keeps recorded distinct (capacity_opened sound opened ▸ few)
  rw [Rule.map_unsourced unsourced] at kept
  refine ⟨_, ?_, (Session.ask_keep database (Store.close_of_keeps kept)).1⟩
  rw [run_importKept configured loaded read, run_withStore opened]
  simp only [inserted, Except.mapError]

/-- More rules than a statement takes are not imported. -/
theorem importKept_tooMany (configured : ((Work.settings around config).run session).1 = .ok settings)
    (sound : session.Sound settings.database)
    (opened : (Store.prepare.run (session.storeAt settings.database)).1 = .ok ())
    (loaded : Document.readJson session.files path = .ok data) (read : Document.parse data none true = .ok rules)
    (distinct : (rules.map (·.id)).Nodup)
    (many : (session.storeAt settings.database).capacity.value < rules.length) :
    ((importRules around config path true).run session).1 =
      .error (.store (.failed .insert .tooManyParameters)) := by
  have medium := (Store.usable_prepared
    ((Session.storeAt_medium session settings.database).trans (sound.database opened))).medium
  have refused : (Store.insertAll rules true).run (Store.prepare.run (session.storeAt settings.database)).2 = _ :=
    Store.run_insertAll_tooMany medium distinct (capacity_opened sound opened ▸ many)
  rw [run_importKept configured loaded read, run_withStore opened]
  simp only [refused, Except.mapError]

/-- A list whose texts have a UTF-8 form is exported wherever a file can be written. -/
theorem exportRules_done (configured : ((Work.settings around config).run session).1 = .ok settings)
    (sound : session.Sound settings.database) (listed : session.ask settings.database Store.list = .ok rules)
    (unicode : ∀ r ∈ rules, ∀ s ∈ r.texts, s.IsUnicode)
    (writable : (Session.filesAfterOpening session.files settings.database).Writable path) :
    ∃ after, (exportRules around config path).run session = (.ok (.exported rules.length path), after) := by
  have opened := Session.prepared_of_ask listed
  obtain ⟨-, existing, keeps⟩ := sound.prepared opened
  rw [Session.ask_of_prepared opened] at listed
  obtain rfl : existing = rules := Except.ok.inj ((Store.list_of_keeps keeps).symm.trans listed)
  have scalar := Document.isScalar_textOfRules
    (fun r member => (keeps.kept r member).recorded.written.typed) unicode
  obtain ⟨files, wrote⟩ := Document.exists_writeText_iff.mpr ⟨scalar, writable⟩
  unfold exportRules
  rw [run_bind, run_onRules configured, run_withStore opened]
  simp only [listed, Except.mapError, run_bind, run_get]
  exact ⟨_, by simp only [Session.keep, wrote, run_set, run_pure]; rfl⟩

/-- What is exported is the list, and is read from the file as it was. -/
theorem exportRules_listed (configured : ((Work.settings around config).run session).1 = .ok settings)
    (sound : session.Sound settings.database)
    (ran : (exportRules around config path).run session = (.ok report, session')) :
    ∃ rules, session.ask settings.database Store.list = .ok rules ∧ (rules.map (·.id)).Nodup ∧
      (∀ r ∈ rules, r.Recorded ∧ r.source = none) ∧
      session'.files.Stands path (.file (Utf8.encode (Document.textOfRules rules))) ∧
      Document.readJson session'.files path = .ok (Document.ofRules rules) ∧
      Document.parse (Document.ofRules rules) none true = .ok rules := by
  obtain ⟨rules, between, listed, wrote⟩ := exportFile_ok configured ran
  obtain ⟨opened, s, asked, rfl⟩ := withStore_ok listed
  obtain ⟨database, existing, keeps⟩ := sound.prepared opened
  have all := Store.list_of_keeps keeps
  rw [asked] at all
  obtain rfl := Except.ok.inj all
  obtain ⟨scalar, stands, -⟩ := Document.writeText_ok wrote
  have own : ∀ r ∈ rules, r.Recorded ∧ r.source = none :=
    fun r member => ⟨(keeps.kept r member).recorded, (keeps.kept r member).source⟩
  have written : ∀ r ∈ rules, r.Written := fun r member => (own r member).1.written
  refine ⟨rules, ?_, keeps.distinct, own, stands, Document.readJson_ofRules written scalar stands, ?_⟩
  · rw [Session.ask_of_prepared opened, asked]
  · exact Document.parse_ofRules (fun r member => ⟨(written r member).typed, (own r member).2⟩) keeps.distinct

/-- Importing a file and exporting to a file. The rules of a file that is imported under its own ids are those that
are loaded from it, and stand in front of the list; if there was nothing in the list, any URL is resolved alike by
the enabled rules of the store and by those of the file. And a file that was exported is loaded as the list, and
imported as the list wherever its octets stand and nothing is in the list, if a statement takes so many parameters as
there are rules. A list whose texts are Unicode is exported wherever a file can be written. -/
theorem exchange (around : Surroundings) (config : Option Path) (path : Path) {session : Session}
    {settings : Config.Settings} (configured : ((Work.settings around config).run session).1 = .ok settings)
    (sound : session.Sound settings.database) :
    (∀ report session', (perform around config (.importFile path true)).run session = (.ok report, session') →
      ∃ bundle existing, Document.loadBundle session.files path none true = .ok bundle ∧
        session.ask settings.database Store.list = .ok existing ∧
        session'.ask settings.database Store.list = .ok (bundle.rules ++ existing) ∧
        (existing = [] → ∃ enabled, session'.ask settings.database Store.enabled = .ok enabled ∧
          ∀ rounds url, Rule.resolve enabled rounds url = Rule.resolve bundle.rules rounds url)) ∧
    (∀ rules, session.ask settings.database Store.list = .ok rules → (∀ r ∈ rules, ∀ s ∈ r.texts, s.IsUnicode) →
      (Session.filesAfterOpening session.files settings.database).Writable path →
      ∃ session', (perform around config (.exportFile path)).run session =
        (.ok (.exported rules.length path), session')) ∧
    ∀ report session', (perform around config (.exportFile path)).run session = (.ok report, session') →
      ∃ rules bundle, session.ask settings.database Store.list = .ok rules ∧
        Document.loadBundle session'.files path none true = .ok bundle ∧ bundle.rules = rules ∧
        ∀ (around : Surroundings) (config : Option Path) (path' : Path) (other : Session)
          (settings : Config.Settings),
          ((Work.settings around config).run other).1 = .ok settings → other.Sound settings.database →
          other.ask settings.database Store.list = .ok [] → other.files.read path' = session'.files.read path →
          rules.length ≤ (other.storeAt settings.database).capacity.value →
          ∃ after, (perform around config (.importFile path' true)).run other =
              (.ok (.imported rules.length), after) ∧
            after.ask settings.database Store.list = .ok rules := by
  refine ⟨?_, fun rules listed unicode writable => exportRules_done configured sound listed unicode writable, ?_⟩
  · intro report session' ran
    obtain ⟨bundle, existing, loaded, before, listed, enabled⟩ := importKept_listed configured sound ran
    refine ⟨bundle, existing, loaded, before, listed, fun empty => ?_⟩
    rw [empty, List.append_nil] at enabled
    exact ⟨_, enabled, Rule.resolve_enabledOnly bundle.rules⟩
  · intro report session' ran
    obtain ⟨rules, listed, distinct, own, -, loaded, read⟩ := exportRules_listed configured sound ran
    obtain ⟨bundle, bundled, same⟩ := Document.loadBundle_of_parse loaded read
    refine ⟨rules, bundle, listed, bundled, same, ?_⟩
    intro around config path' other settings configured sound empty octets few
    exact importKept_of_empty configured sound empty (Document.readJson_congr octets loaded) read
      (fun r member => (own r member).1) (fun r member => (own r member).2) distinct few

/-! ## An exchange -/

def plainSurroundings : Surroundings :=
  ⟨⟨⟨[Path.slash], [[0x68]]⟩, fun _ => none⟩, ⟨[], []⟩, Web.ofRoutes [], fun _ => []⟩

def plainConfig : Option Path := some (.ofText (Text.of "c.yaml"))

/-- An empty configuration, and a file. -/
def plainSession (text : Text) : Session :=
  .ofFiles ⟨[([Text.of "c.yaml"], .file []), ([Text.of "r.json"], .file (Utf8.encode text))]⟩

def plainText : Text := "[\x7b\"id\":\"a\",\"from\":\"a\",\"to\":\"b\"\x7d]"

/-- Where an empty configuration has the store. -/
def plainDatabase : Path := .ofText (Text.of "/h/.local/share/linkpure/rules.db")

def plainImport (text : Text) : Except Error Report × Session :=
  (perform plainSurroundings plainConfig (.importFile (.ofText (Text.of "r.json")) true)).run (plainSession text)

/-- The session after the import of one rule. -/
def plainStored : Session := (plainImport plainText).2

def plainFile : Path := .ofText (Text.of "e.json")

def plainExport (session : Session) : Except Error Report × Session :=
  (perform plainSurroundings plainConfig (.exportFile plainFile)).run session

theorem plain_configured {session : Session} {files : Files} (same : session.files = files)
    (database : ((Work.settings plainSurroundings plainConfig).run (.ofFiles files)).1.map (·.database) =
      .ok plainDatabase) :
    ∃ settings, ((Work.settings plainSurroundings plainConfig).run session).1 = .ok settings ∧
      settings.database = plainDatabase := by
  subst same
  have alone : ((Work.settings plainSurroundings plainConfig).run (.ofFiles session.files)).1 =
      ((Work.settings plainSurroundings plainConfig).run session).1 := settings_congr rfl
  rw [alone] at database
  cases configured : ((Work.settings plainSurroundings plainConfig).run session).1 with
  | error e => simp [configured, Except.map] at database
  | ok settings => exact ⟨settings, rfl, by simpa [configured, Except.map] using database⟩

theorem plainSession_sound (text : Text) : (plainSession text).Sound plainDatabase := fun _ found => by cases found

theorem plainSession_database (text : Text) :
    ((Work.settings plainSurroundings plainConfig).run (plainSession text)).1.map (·.database) = .ok plainDatabase := by
  rfl

theorem plainSession_configured (text : Text) :
    ∃ settings, ((Work.settings plainSurroundings plainConfig).run (plainSession text)).1 = .ok settings ∧
      settings.database = plainDatabase := plain_configured rfl (plainSession_database text)

/-- A new store at the place of the database. -/
def newStore : Store := .emptyAt .usual (plainSession []).files plainDatabase

theorem newStore_opened : (Store.prepare.run newStore).1 = .ok () := by rfl

theorem plainSession_medium : Store.mediumAt (plainSession []).files plainDatabase = .database :=
  Store.medium_of_initialized newStore_opened rfl

theorem storeAt_plainSession (text : Text) : (plainSession text).storeAt plainDatabase = newStore := by rfl

theorem newStore_keeps : (Store.prepare.run newStore).2.Keeps [] := Store.keeps_nil newStore_opened

theorem plainSession_empty (text : Text) : (plainSession text).ask plainDatabase Store.list = .ok [] := by
  have same := storeAt_plainSession text
  rw [Session.ask_of_prepared (same.symm ▸ newStore_opened), same]
  exact Store.list_of_keeps newStore_keeps

/-- After an import the store is one that operations lead to. -/
theorem plainImport_sound {text : Text} (imports : (plainImport text).1 = .ok report) :
    (plainImport text).2.Sound plainDatabase := by
  obtain ⟨settings, configured, database⟩ := plainSession_configured text
  rw [← database]
  exact importKept_sound configured (database ▸ plainSession_sound text) (Prod.fst_eq_iff.mp imports)

theorem plainText_imported : (plainImport plainText).1 = .ok (.imported 1) := by decide +kernel

theorem plainStored_sound : plainStored.Sound plainDatabase := plainImport_sound plainText_imported

theorem plainStored_configured :
    ∃ settings, ((Work.settings plainSurroundings plainConfig).run plainStored).1 = .ok settings ∧
      settings.database = plainDatabase := plain_configured rfl (by decide +kernel)

/-- One rule is imported, and exported, and the octets of the exported file are imported elsewhere. -/
theorem exchange_plain :
    let rule := Rule.letterRule 0x61 0x62
    let elsewhere := plainImport (Document.textOfRules [rule])
    (plainImport plainText).1 = .ok (.imported 1) ∧
      plainStored.ask plainDatabase Store.list = .ok [rule] ∧
      (plainExport plainStored).1 = .ok (.exported 1 plainFile) ∧
      elsewhere.1 = .ok (.imported 1) ∧ elsewhere.2.ask plainDatabase Store.list = .ok [rule] := by
  intro rule elsewhere
  have exports : (plainExport plainStored).1 = .ok (.exported 1 plainFile) := by decide +kernel
  obtain ⟨settings, configured, database⟩ := plainSession_configured plainText
  obtain ⟨settings', configured', database'⟩ := plainStored_configured
  obtain ⟨other, configuredOther, databaseOther⟩ := plainSession_configured (Document.textOfRules [rule])
  obtain ⟨bundle, existing, loaded, nothing, listed, -⟩ :=
    (exchange plainSurroundings plainConfig (.ofText (Text.of "r.json")) configured
      (database ▸ plainSession_sound plainText)).1 _ _ (Prod.fst_eq_iff.mp plainText_imported)
  rw [database] at nothing listed
  have answer : plainStored.ask plainDatabase Store.list = .ok [rule] := by
    have one : (Document.loadBundle (plainSession plainText).files (.ofText (Text.of "r.json")) none true).map
        (·.rules) = .ok [rule] := by decide +kernel
    rw [loaded] at one
    have same : bundle.rules = [rule] := Except.ok.inj one
    rw [← same, ← List.append_nil bundle.rules, ← Except.ok.inj (nothing.symm.trans (plainSession_empty plainText))]
    exact listed
  obtain ⟨rules, exported, asked, -, -, again⟩ :=
    (exchange plainSurroundings plainConfig plainFile configured'
      (database' ▸ plainStored_sound)).2.2 _ _ (Prod.fst_eq_iff.mp exports)
  rw [database', answer] at asked
  obtain rfl := Except.ok.inj asked
  obtain ⟨after, ran', listed'⟩ := again plainSurroundings plainConfig (.ofText (Text.of "r.json"))
    (plainSession (Document.textOfRules [rule])) other configuredOther (databaseOther ▸ plainSession_sound _)
    (databaseOther ▸ plainSession_empty _) (by decide +kernel) (databaseOther ▸ by decide +kernel)
  have same : elsewhere = (.ok (.imported 1), after) := ran'
  refine ⟨plainText_imported, answer, exports, by rw [same], ?_⟩
  rw [same, ← databaseOther]
  exact listed'

/-! ## What cannot be exchanged -/

/-- A rule with a lone surrogate as the name of a parameter. -/
def loneText : Text := "[\x7b\"id\":\"a\",\"from\":\"a\",\"removeParams\":[\"\\ud800\"]\x7d]"

/-- Rules that differ in their ids. -/
def numberedRule (n : Nat) : Rule := { Rule.letterRule 0x61 0x62 with id := List.replicate (n + 1) 0x61 }

def numberedRules (count : Nat) : List Rule := (List.range count).map numberedRule

variable {count : Nat}

theorem length_numberedRules (count : Nat) : (numberedRules count).length = count := by
  rw [numberedRules, List.length_map, List.length_range]

theorem numberedRules_succ (count : Nat) : numberedRules (count + 1) = numberedRules count ++ [numberedRule count] := by
  rw [numberedRules, List.range_succ, List.map_append]
  rfl

theorem numberedRules_distinct (count : Nat) : ((numberedRules count).map (·.id)).Nodup := by
  rw [numberedRules, List.map_map]
  refine List.nodup_range.map fun m n same => ?_
  simpa [numberedRule] using congrArg List.length same

theorem numberedRule_storable (n : Nat) : (numberedRule n).Storable := by
  have letter : (Rule.letterRule 0x61 0x62).Storable :=
    Rule.storable_letterRule ⟨_, by cbv⟩ (by decide) (by decide)
  have id : Text.IsUnicode (List.replicate (n + 1) 0x61) := by
    intro c member
    rw [(List.mem_replicate.mp member).2]
    decide
  exact { letter with valid := { letter.valid with id_ne_nil := by simp [numberedRule] }, id_unicode := id }

theorem numberedRules_storable (count : Nat) : ∀ r ∈ numberedRules count, r.Storable := by
  intro r member
  obtain ⟨n, -, rfl⟩ := List.mem_map.mp member
  exact numberedRule_storable n

theorem numberedRules_unsourced (count : Nat) : ∀ r ∈ numberedRules count, r.source = none := by
  intro r member
  obtain ⟨n, -, rfl⟩ := List.mem_map.mp member
  rfl

/-- Puts so many rules in a list, and then one more. -/
def numberedOperations (count : Nat) : List Store.Operation :=
  [.insertAll (numberedRules count) true, .insert (numberedRule count) false]

theorem onList_numberedOperations (count : Nat) :
    (Store.runAll Store.Operation.onList (numberedOperations count) []).2 = numberedRules (count + 1) := by
  have fresh : (numberedRule count).id ∉ (numberedRules count).map (·.id) := by
    have all := numberedRules_distinct (count + 1)
    rw [numberedRules_succ, List.map_append] at all
    intro old
    exact (List.nodup_append.mp all).2.2 _ old _ (List.mem_singleton_self _) rfl
  have first : Store.Operation.addTo [] (numberedRules count) true = (.ok .done, numberedRules count) := by
    simp [Store.Operation.addTo, numberedRules_distinct, Rule.map_unsourced (numberedRules_unsourced count)]
  have second : Store.Operation.addTo (numberedRules count) [numberedRule count] false =
      (.ok .done, numberedRules (count + 1)) := by
    rw [numberedRules_succ, Store.Operation.addTo, if_neg (by simp), if_neg (by simpa using fresh)]
    rfl
  simp only [numberedOperations, Store.runAll, Store.Operation.onList, first, second]

theorem numberedOperations_storable (count : Nat) : ∀ operation ∈ numberedOperations count, operation.Storable :=
  List.forall_mem_cons.mpr ⟨numberedRules_storable count, List.forall_mem_singleton.mpr (numberedRule_storable count)⟩

/-- A store into which so many rules were put, and one more. -/
def numberedStore (count : Nat) : Store :=
  (Store.runAll Store.Operation.onStore (numberedOperations count) (Store.prepare.run newStore).2).2

def numberedSession (count : Nat) : Session :=
  (plainSession []).keep plainDatabase (Store.close.run (numberedStore count)).2

theorem numberedStore_reachable (count : Nat) : (numberedStore count).Reachable := by
  refine (Store.Reachable.start newStore_opened).runAll (List.forall_mem_cons.mpr ⟨fun r member => ?_, ?_⟩)
  · exact (numberedRules_storable count r member).recorded.written
  · exact List.forall_mem_singleton.mpr (numberedRule_storable count).recorded.written

theorem capacity_newStore : (Store.prepare.run newStore).2.capacity = .usual := by rfl

theorem numberedStore_keeps (few : count ≤ Store.Capacity.usual.value) :
    (numberedStore count).Keeps (numberedRules (count + 1)) := by
  rw [← onList_numberedOperations]
  refine Store.runAll_keeps newStore_keeps (Store.ranged_prepared newStore_opened)
    (numberedOperations_storable count) ?_ ?_
  · rw [capacity_newStore]
    refine List.forall_mem_cons.mpr ⟨(length_numberedRules count).le.trans few, List.forall_mem_singleton.mpr ?_⟩
    exact Nat.le_trans (m := 7) (by simp [Store.Operation.batch]) Store.Capacity.usual.row_le
  · have small : count < 2147483648 := Nat.lt_of_le_of_lt few Store.Capacity.usual.lt
    simp only [numberedOperations, Store.Operation.batch, List.map_cons, List.map_nil, length_numberedRules,
      List.sum_cons, List.sum_nil, List.length_singleton]
    omega

theorem numberedSession_sound (count : Nat) : (numberedSession count).Sound plainDatabase :=
  Session.sound_keep _ _ (numberedStore_reachable count)

theorem numberedSession_listed (few : count ≤ Store.Capacity.usual.value) :
    (numberedSession count).ask plainDatabase Store.list = .ok (numberedRules (count + 1)) :=
  (Session.ask_keep plainSession_medium (Store.close_of_keeps (numberedStore_keeps few))).1

theorem capacity_numberedStore (count : Nat) : (numberedStore count).capacity = .usual :=
  (Store.capacity_runAll (Store.ranged_prepared newStore_opened) (numberedOperations count)).trans capacity_newStore

/-- The store of a session that keeps so many rules, and one more. -/
theorem storeAt_numberedSession (few : count ≤ Store.Capacity.usual.value) :
    ((numberedSession count).storeAt plainDatabase).capacity = .usual := by
  obtain ⟨entries, represents, -⟩ := Store.close_of_keeps (numberedStore_keeps few)
  rw [numberedSession, Session.storeAt_keep plainSession_medium represents.usable.medium]
  exact capacity_numberedStore count

theorem numberedRules_unicode (count : Nat) : ∀ r ∈ numberedRules count, ∀ s ∈ r.texts, s.IsUnicode := by
  intro r member
  obtain ⟨n, -, rfl⟩ := List.mem_map.mp member
  have texts : (numberedRule n).texts = [(numberedRule n).id, [0x61], [0x62]] := rfl
  rw [texts]
  exact List.forall_mem_cons.mpr ⟨(numberedRule_storable n).id_unicode, by decide⟩

/-- The files of a session that has opened its store. -/
def openedFiles : Files := Session.filesAfterOpening (plainSession []).files plainDatabase

theorem openedFiles_computed :
    ((Work.settings plainSurroundings plainConfig).run (.ofFiles openedFiles)).1.map (·.database) = .ok plainDatabase ∧
      (Document.writeText (Session.filesAfterOpening openedFiles plainDatabase) plainFile []).1 = none := by
  decide +kernel

theorem numberedSession_configured (count : Nat) :
    ∃ settings, ((Work.settings plainSurroundings plainConfig).run (numberedSession count)).1 = .ok settings ∧
      settings.database = plainDatabase := by
  have files : (numberedSession count).files = openedFiles := rfl
  exact plain_configured files openedFiles_computed.1

/-- The session after the import of that rule. -/
def loneStored : Session := (plainImport loneText).2

/-- The rule is imported. The file that an export leaves is empty. -/
theorem loneText_computed :
    (plainImport loneText).1 = .ok (.imported 1) ∧
      ((Work.settings plainSurroundings plainConfig).run (.ofFiles loneStored.files)).1.map (·.database) =
        .ok plainDatabase ∧
      (Document.writeText (Session.filesAfterOpening loneStored.files plainDatabase) plainFile []).1 = none ∧
      (Document.loadBundle (plainExport loneStored).2.files plainFile none true).isOk = false := by
  decide +kernel

theorem plainFile_writable {files : Files} (wrote : (Document.writeText files plainFile []).1 = none) :
    files.Writable plainFile :=
  (Document.exists_writeText_iff.mp ⟨_, Prod.fst_eq_iff.mp wrote⟩).2

/-- More rules than a statement takes parameters are not imported to a new store. -/
theorem plainImport_tooMany {text : Text} {data : Json} {rules : List Rule}
    (loaded : Document.readJson (plainSession text).files (.ofText (Text.of "r.json")) = .ok data)
    (read : Document.parse data none true = .ok rules) (distinct : (rules.map (·.id)).Nodup)
    (many : Store.Capacity.usual.value < rules.length) :
    (plainImport text).1 = .error (.store (.failed .insert .tooManyParameters)) := by
  obtain ⟨settings, configured, database⟩ := plainSession_configured text
  have new : (plainSession text).storeAt settings.database = newStore := by rw [database, storeAt_plainSession]
  refine importKept_tooMany configured (database ▸ plainSession_sound text) ?_ loaded read distinct ?_ <;> rw [new]
  · exact newStore_opened
  · exact many

/-- The list with one rule more than a statement takes parameters is exported, but not imported. -/
theorem numberedRules_exported (full : count = Store.Capacity.usual.value) :
    ∃ session', plainExport (numberedSession count) = (.ok (.exported (count + 1) plainFile), session') ∧
      session'.files.read plainFile = .ok (Utf8.encode (Document.textOfRules (numberedRules (count + 1)))) ∧
      (plainImport (Document.textOfRules (numberedRules (count + 1)))).1 =
        .error (.store (.failed .insert .tooManyParameters)) := by
  obtain ⟨settings, configured, database⟩ := numberedSession_configured count
  have listed := numberedSession_listed full.le
  have sound := numberedSession_sound count
  have writable := plainFile_writable openedFiles_computed.2
  rw [← database] at listed sound writable
  obtain ⟨session', ran⟩ := exportRules_done configured sound listed (numberedRules_unicode _) writable
  obtain ⟨rules, exported, distinct, -, stands, loaded, read⟩ := exportRules_listed configured sound ran
  obtain rfl : numberedRules (count + 1) = rules := Except.ok.inj (listed.symm.trans exported)
  have octets := Files.read_of_stands stands
  have length := length_numberedRules (count + 1)
  refine ⟨session', ?_, octets, plainImport_tooMany (Document.readJson_congr ?_ loaded) read distinct ?_⟩
  · rw [length] at ran
    exact ran
  · rw [octets]
    rfl
  · rw [length]
    exact Nat.lt_succ_of_le full.ge

/-- A list with a text that has no UTF-8 form is not exported, and the file that is left is not loaded. An export of
more rules than a statement takes parameters is not imported. -/
theorem exchange_limits :
    (¬∀ (around : Surroundings) (config : Option Path) (path : Path) (session session' : Session)
        (settings : Config.Settings) (result : Except Error Report),
      ((Work.settings around config).run session).1 = .ok settings → session.Sound settings.database →
      (Session.filesAfterOpening session.files settings.database).Writable path →
      (perform around config (.exportFile path)).run session = (result, session') →
      ∃ bundle, Document.loadBundle session'.files path none true = .ok bundle) ∧
    ¬∀ (around : Surroundings) (config : Option Path) (path path' : Path) (session session' other : Session)
        (settings settings' : Config.Settings) (report : Report),
      ((Work.settings around config).run session).1 = .ok settings → session.Sound settings.database →
      (session.storeAt settings.database).capacity = .usual →
      (perform around config (.exportFile path)).run session = (.ok report, session') →
      ((Work.settings around config).run other).1 = .ok settings' → other.Sound settings'.database →
      (other.storeAt settings'.database).capacity = .usual →
      other.ask settings'.database Store.list = .ok [] → other.files.read path' = session'.files.read path →
      ∃ report', ((perform around config (.importFile path' true)).run other).1 = .ok report' := by
  refine ⟨fun claimed => ?_, fun claimed => ?_⟩
  · obtain ⟨imports, read, wrote, refused⟩ := loneText_computed
    obtain ⟨settings, configured, database⟩ := plain_configured rfl read
    have sound : loneStored.Sound settings.database := database ▸ plainImport_sound imports
    have writable := plainFile_writable wrote
    rw [← database] at writable
    have ran : plainExport loneStored = ((plainExport loneStored).1, (plainExport loneStored).2) := Prod.mk.eta.symm
    obtain ⟨bundle, loaded⟩ := claimed plainSurroundings plainConfig plainFile loneStored (plainExport loneStored).2
      settings (plainExport loneStored).1 configured sound writable ran
    rw [loaded] at refused
    cases refused
  · -- The count stays a variable, so that nothing is computed with a list as long as this.
    obtain ⟨count, full⟩ : ∃ count, count = Store.Capacity.usual.value := ⟨_, rfl⟩
    obtain ⟨settings, configured, database⟩ := numberedSession_configured count
    obtain ⟨session', ran, octets, refused⟩ := numberedRules_exported full
    obtain ⟨settings', configured', database'⟩ :=
      plainSession_configured (Document.textOfRules (numberedRules (count + 1)))
    obtain ⟨report, imported⟩ := claimed plainSurroundings plainConfig plainFile (.ofText (Text.of "r.json")) _ session'
      (plainSession (Document.textOfRules (numberedRules (count + 1)))) settings settings' _ configured
      (database ▸ numberedSession_sound count) (database ▸ storeAt_numberedSession full.le) ran configured'
      (database' ▸ plainSession_sound _) (database' ▸ storeAt_plainSession _ ▸ rfl) (database' ▸ plainSession_empty _)
      (octets.symm ▸ rfl)
    exact absurd (imported.symm.trans refused) (by simp)

end Command
end UrlRules
