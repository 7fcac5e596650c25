import UrlRules.Proofs.Pipeline.Refinement

/-!
# Downloads that fail

A download fetches all documents before it changes a file, so one that cannot be fetched leaves everything as it was.
A document that cannot be normalized is met later: the sources before it have been handled by then, and no file of the
others has changed (`Interrupts`). Whatever comes of a download, a file that was there for a source maintained by hand
stays (`download_changes`).
-/
namespace UrlRules.Pipeline

open Text

variable {settings : Config.Settings} {web : Web} {start : Files} {source first : Config.Source}
  {sources before after : List Config.Source} {texts : List (Text × Text)} {report report' : Report}
  {result : Except Error Report} {f : Provider.Failure} {w w' : Workspace}

/-! ## Documents that cannot be fetched -/

/-- The error of fetching all documents is that of fetching one. -/
theorem exists_of_fetchAll_error {e : Error} (failed : fetchAll web sources = .error e) :
    ∃ s ∈ sources, s.isRemote = true ∧ fetchSource web s = .error e := by
  rcases bind_eq_error.mp failed with fetching | ⟨writes, -, none⟩
  · obtain ⟨s, inside, own⟩ := exists_of_mapM_error fetching
    obtain ⟨member, remote⟩ := List.mem_filter.mp inside
    rcases bind_eq_error.mp own with here | ⟨text, -, none⟩
    · exact ⟨s, member, remote, here⟩
    · cases none
  · cases none

/-- An error of HTTP is told with the URL. -/
theorem fetchSource_error {url : Text} {http : Web.HttpError} {e : Error} (text : source.url = .text url)
    (refused : web url = .error (.http http)) (failed : fetchSource web source = .error e) :
    e = .fetch (.http url http) := by
  have told : fetchSource web source = .error (.fetch (.http url http)) := by
    simp only [fetchSource, text, Web.fetch, refused]
  exact Except.error.inj (failed.symm.trans told)

/-- A download that cannot fetch a document changes nothing. -/
theorem unchanged_of_fetch_error {e : Error} (names : (settings.sources.map (·.name)).Nodup)
    (member : source ∈ settings.sources) (remote : source.isRemote = true) (failed : fetchSource web source = .error e)
    (ran : (download settings web).run w = (result, w')) :
    w' = w ∧ ∃ s ∈ settings.sources, s.isRemote = true ∧ ∃ e, fetchSource web s = .error e ∧ result = .error e := by
  unfold download at ran
  split at ran
  next e' fetching =>
    obtain ⟨s, inside, remote', own⟩ := exists_of_fetchAll_error fetching
    cases ran
    exact ⟨rfl, s, inside, remote', e', own, rfl⟩
  next texts fetched =>
    obtain ⟨text, there, -⟩ := document_of_fetchAll names fetched member remote
    rw [failed] at there
    cases there

/-! ## Documents that cannot be normalized -/

/-- The first source of a list whose document cannot be normalized, for the reason `f`. -/
structure Interrupts (web : Web) (sources before : List Config.Source) (first : Config.Source)
    (after : List Config.Source) (f : Provider.Failure) : Prop where
  listed : sources = before ++ first :: after
  normal : ∀ s ∈ before, s.isRemote = true → ∀ text, fetchSource web s = .ok text →
    ∃ normalized, normalize s text = .ok normalized
  remote : first.isRemote = true
  fails : ∃ text, fetchSource web first = .ok text ∧ normalize first text = .error f

/-- If the document of some source cannot be normalized, there is a first one. -/
theorem exists_interrupts (fails : ∃ s ∈ sources, s.isRemote = true ∧
      ∃ text f, fetchSource web s = .ok text ∧ normalize s text = .error f) :
    ∃ before first after f, Interrupts web sources before first after f := by
  induction sources with
  | nil =>
    obtain ⟨s, member, -⟩ := fails
    cases member
  | cons head sources ih =>
    by_cases here : head.isRemote = true ∧ ∃ text f, fetchSource web head = .ok text ∧ normalize head text = .error f
    · obtain ⟨remote, text, f, fetched, given⟩ := here
      exact ⟨[], head, sources, f, rfl, List.forall_mem_nil _, remote, text, fetched, given⟩
    · obtain ⟨s, member, remote, failing⟩ := fails
      rcases List.mem_cons.mp member with rfl | later
      · exact absurd ⟨remote, failing⟩ here
      obtain ⟨before, first, after, f, stops⟩ := ih ⟨s, later, remote, failing⟩
      refine ⟨head :: before, first, after, f, by rw [stops.listed]; rfl, ?_, stops.remote, stops.fails⟩
      refine List.forall_mem_cons.mpr ⟨fun remote text fetched => ?_, stops.normal⟩
      cases given : normalize head text with
      | ok normalized => exact ⟨normalized, rfl⟩
      | error f => exact absurd ⟨remote, text, f, fetched, given⟩ here

theorem handleAll_append (settings : Config.Settings) (texts : List (Text × Text)) (report : Report)
    (before after : List Config.Source) :
    handleAll settings texts report (before ++ after) =
      handleAll settings texts report before >>= fun report => handleAll settings texts report after := by
  induction before generalizing report with
  | nil => simp [handleAll]
  | cons first before ih => simp [handleAll, ih]

theorem writeRemote_error {text : Text} {normalized : Provider.Normalized} {e : Error}
    (found : Json.field? texts source.name = some text) (given : normalize source text = .ok normalized)
    (ran : (writeRemote settings texts report source).run w = (.error e, w')) : ∃ failure, e = .save failure := by
  unfold writeRemote at ran
  rw [found, Option.getD_some, given] at ran
  obtain ⟨_, warned, -⟩ | ⟨_, warned, -, ran⟩ := cases_of_bind ran
  · cases warned
  obtain ⟨_, saving, same⟩ | ⟨_, saved, -, ran⟩ := cases_of_bind ran
  · obtain rfl := Except.error.inj same
    exact save_error saving
  · cases ran

theorem createTemplate_error {e : Error}
    (ran : (createTemplate settings report source).run w = (.error e, w')) : ∃ failure, e = .save failure := by
  unfold createTemplate at ran
  obtain ⟨_, read, -⟩ | ⟨now, between, -, ran⟩ := cases_of_bind ran
  · cases read
  split at ran
  · cases ran
  obtain ⟨_, saving, same⟩ | ⟨_, saved, -, ran⟩ := cases_of_bind ran
  · obtain rfl := Except.error.inj same
    exact save_error saving
  · cases ran

/-- Where the documents can be normalized, only a file that cannot be written stops a download. -/
theorem handleAll_error {e : Error}
    (normal : ∀ s ∈ sources, s.isRemote = true → ∃ text normalized,
      Json.field? texts s.name = some text ∧ normalize s text = .ok normalized)
    (ran : (handleAll settings texts report sources).run w = (.error e, w')) : ∃ failure, e = .save failure := by
  induction sources generalizing report w with
  | nil => cases ran
  | cons head sources ih =>
    obtain ⟨own, others⟩ := List.forall_mem_cons.mp normal
    unfold handleAll at ran
    obtain ⟨_, one, same⟩ | ⟨middle, between, -, rest⟩ := cases_of_bind ran
    · obtain rfl := Except.error.inj same
      unfold handle at one
      split at one
      next remote =>
        obtain ⟨text, normalized, found, given⟩ := own remote
        exact writeRemote_error found given one
      next => exact createTemplate_error one
    · exact ih others rest

/-- A source whose document cannot be normalized stops the download, and no file is changed for it or after it. -/
theorem run_handleAll_of_fails {text : Text} (remote : first.isRemote = true)
    (found : Json.field? texts first.name = some text) (fails : normalize first text = .error f)
    (settings : Config.Settings) (report : Report) (after : List Config.Source) (w : Workspace) :
    (handleAll settings texts report (first :: after)).run w =
      (.error (.provider f.error), { w with warnings := w.warnings ++ f.warnings }) := by
  have own : (handle settings texts report first).run w =
      (.error (.provider f.error), { w with warnings := w.warnings ++ f.warnings }) := by
    rw [handle, if_pos remote, writeRemote, found, Option.getD_some, fails]
    rfl
  rw [handleAll, run_bind, own]

/-- The sources before the one that stops the download are handled, and files are changed for them only. -/
theorem handled_of_interrupts (names : (settings.sources.map (·.name)).Nodup)
    (places : (placesOf settings settings.sources).Nodup)
    (fetched : ∀ s ∈ settings.sources, s.isRemote = true → ∃ text, fetchSource web s = .ok text)
    (stops : Interrupts web settings.sources before first after f)
    (ran : (download settings web).run w = (result, w')) (saves : ∀ e, result ≠ .error (.save e)) :
    result = .error (.provider f.error) ∧ (∀ s ∈ before, Handled settings web w.files w'.files s) ∧
      Files.Changes (placesOf settings before) w.files w'.files := by
  unfold download at ran
  split at ran
  next e fetching =>
    obtain ⟨s, member, remote, failed⟩ := exists_of_fetchAll_error fetching
    obtain ⟨text, there⟩ := fetched s member remote
    rw [failed] at there
    cases there
  next texts fetching =>
    have found s (member : s ∈ settings.sources) := document_of_fetchAll names fetching member
    rw [stops.listed] at found places ran
    have found' : ∀ s ∈ before, s.isRemote = true →
        ∃ text, fetchSource web s = .ok text ∧ Json.field? texts s.name = some text :=
      fun s member => found s (List.mem_append_left _ member)
    -- The sources before the failing one are handled as a list of their own, which only a write can stop.
    rw [handleAll_append] at ran
    obtain ⟨e, one, rfl⟩ | ⟨report, between, one, rest⟩ := cases_of_bind ran
    · obtain ⟨failure, rfl⟩ := handleAll_error (fun s member remote => by
        obtain ⟨text, own, stands⟩ := found' s member remote
        obtain ⟨normalized, given⟩ := stops.normal s member remote text own
        exact ⟨text, normalized, stands, given⟩) one
      exact absurd rfl (saves failure)
    · obtain ⟨text, own, given⟩ := stops.fails
      obtain ⟨text', own', stands⟩ := found first (by simp) stops.remote
      obtain rfl := Except.ok.inj (own.symm.trans own')
      rw [run_handleAll_of_fails stops.remote stands given] at rest
      cases rest
      have distinct : (placesOf settings before).Nodup := by
        rw [placesOf, List.map_append] at places
        exact (List.nodup_append.mp places).1
      have handled := handleAll_ok found' (.refl _) distinct one
      have changes := (confined_handleAll settings texts _ before).changes one
      exact ⟨rfl, handled, changes⟩

/-- Elsewhere than at some places no file is changed or created. -/
theorem file_iff_of_changes {places : List Place} {files files' : Files} {place : Place}
    (changes : Files.Changes places files files') (apart : place ∉ places) (octets : List Utf8.Octet) :
    files'.at? place = some (.file octets) ↔ files.at? place = some (.file octets) := by
  rcases changes.others place apart with same | ⟨absent, made⟩
  · rw [same]
  · simp [absent, made]

/-! ## Files maintained by hand -/

theorem run_createTemplate_of_stands {entry : FileEntry} (stands : w.files.Stands (pathOf settings source) entry)
    (report : Report) : (createTemplate settings report source).run w = (.ok report, w) := by
  unfold createTemplate
  rw [run_bind, run_get]
  dsimp only
  rw [if_pos (Files.contains_iff.mpr ⟨entry, stands⟩)]
  rfl

/-- Handling a source keeps what stands at the place of another one, and what is there for one maintained by hand. -/
theorem stands_of_handle {entry : FileEntry} {other : Config.Source} (byHand : source.isRemote = false)
    (apart : (pathOf settings other).place = (pathOf settings source).place → other = source)
    (stands : w.files.Stands (pathOf settings source) entry)
    (ran : (handle settings texts report other).run w = (result, w')) :
    w'.files.Stands (pathOf settings source) entry := by
  by_cases same : (pathOf settings source).place = (pathOf settings other).place
  · obtain rfl := apart same.symm
    rw [handle, if_neg (by simp [byHand]), run_createTemplate_of_stands stands] at ran
    cases ran
    exact stands
  · exact stands.changes ((confined_handle settings texts report other).changes ran) (by simpa using same)

/-- What is there for a source maintained by hand stays, whatever comes of handling sources. -/
theorem stands_of_handleAll {entry : FileEntry} (byHand : source.isRemote = false)
    (apart : ∀ s ∈ sources, (pathOf settings s).place = (pathOf settings source).place → s = source)
    (stands : w.files.Stands (pathOf settings source) entry)
    (ran : (handleAll settings texts report sources).run w = (result, w')) :
    w'.files.Stands (pathOf settings source) entry := by
  induction sources generalizing report w with
  | nil =>
    cases ran
    exact stands
  | cons head sources ih =>
    obtain ⟨own, others⟩ := List.forall_mem_cons.mp apart
    unfold handleAll at ran
    obtain ⟨e, one, -⟩ | ⟨middle, between, one, rest⟩ := cases_of_bind ran
    · exact stands_of_handle byHand own stands one
    · exact ih others (stands_of_handle byHand own stands one) rest

theorem stands_of_download {entry : FileEntry} (places : (placesOf settings settings.sources).Nodup)
    (member : source ∈ settings.sources) (byHand : source.isRemote = false)
    (stands : w.files.Stands (pathOf settings source) entry)
    (ran : (download settings web).run w = (result, w')) : w'.files.Stands (pathOf settings source) entry := by
  unfold download at ran
  split at ran
  · cases ran
    exact stands
  · refine stands_of_handleAll byHand (fun s inside same => ?_) stands ran
    exact List.inj_on_of_nodup_map places inside member same

/-! ## What a download changes -/

/-- If a document cannot be fetched, a download stops with the error of one that cannot, and changes nothing; if that
is an error of HTTP, it is told as such with the URL. If all are fetched and one cannot be normalized, and every file
that is written can be, the sources before the first such one are handled, and no file of another source is changed or
created. A file that was there for a source maintained by hand stays, whatever comes of the download. -/
theorem download_changes (settings : Config.Settings) (web : Web) (w w' : Workspace) (result : Except Error Report)
    (names : (settings.sources.map (·.name)).Nodup) (places : (placesOf settings settings.sources).Nodup)
    (ran : (download settings web).run w = (result, w')) :
    ((∃ s ∈ settings.sources, s.isRemote = true ∧ ∃ e, fetchSource web s = .error e) →
      w' = w ∧ ∃ s ∈ settings.sources, s.isRemote = true ∧ ∃ e, fetchSource web s = .error e ∧ result = .error e ∧
        ∀ url http, s.url = .text url → web url = .error (.http http) → e = .fetch (.http url http)) ∧
    ((∃ s ∈ settings.sources, s.isRemote = true ∧
        ∃ text f, fetchSource web s = .ok text ∧ normalize s text = .error f) →
      ∃ before first after f, Interrupts web settings.sources before first after f) ∧
    (∀ before first after f, (∀ s ∈ settings.sources, s.isRemote = true → ∃ text, fetchSource web s = .ok text) →
      Interrupts web settings.sources before first after f → (∀ e, result ≠ .error (.save e)) →
      result = .error (.provider f.error) ∧ (∀ s ∈ before, Handled settings web w.files w'.files s) ∧
        Files.Changes (placesOf settings before) w.files w'.files ∧
        ∀ s ∈ first :: after, ∀ octets, w'.files.at? (pathOf settings s).place = some (.file octets) ↔
          w.files.at? (pathOf settings s).place = some (.file octets)) ∧
    ∀ s ∈ settings.sources, s.isRemote = false → ∀ octets, w.files.Stands (pathOf settings s) (.file octets) →
      w'.files.Stands (pathOf settings s) (.file octets) := by
  refine ⟨?_, exists_interrupts, ?_, fun s member byHand octets stands => ?_⟩
  · rintro ⟨s, member, remote, e, failed⟩
    obtain ⟨same, s, member, remote, e, failed, stopped⟩ := unchanged_of_fetch_error names member remote failed ran
    exact ⟨same, s, member, remote, e, failed, stopped, fun url http text refused =>
      fetchSource_error text refused failed⟩
  · intro before first after f fetched stops saves
    obtain ⟨stopped, handled, changes⟩ := handled_of_interrupts names places fetched stops ran saves
    refine ⟨stopped, handled, changes, fun s member octets => file_iff_of_changes changes ?_ octets⟩
    rw [stops.listed, placesOf, List.map_append] at places
    exact fun again => (List.nodup_append.mp places).2.2 _ again _ (List.mem_map.mpr ⟨s, member, rfl⟩) rfl
  · exact stands_of_download places member byHand stands ran

/-! ## Samples -/

/-- A source whose document is no object. -/
def brokenRemote : Config.Source :=
  ⟨Text.of "v", Text.of "v.json", some (Text.of "clearurls"), .text (Text.of "http://v/"), []⟩

def brokenWeb : Web := fun url =>
  if url = Text.of "http://v/" then .ok (Text.of "[]") else mixedWeb url

/-- Its document is met after two sources, one that has a file and a remote one, and before a source without a file. -/
def brokenSettings : Config.Settings := sampleSettings
  [handSource (Text.of "a") (Text.of "x.json"), mixedRemote, brokenRemote, handSource (Text.of "b") (Text.of "y.json")]

theorem fails_brokenRemote :
    ∃ text, fetchSource brokenWeb brokenRemote = .ok text ∧ normalize brokenRemote text = .error ⟨.noProviders, []⟩ :=
  ⟨Text.of "[]", by decide +kernel, by decide +kernel⟩

theorem normal_mixedRemote :
    ∃ text normalized, fetchSource brokenWeb mixedRemote = .ok text ∧ normalize mixedRemote text = .ok normalized := by
  have good : ((fetchSource brokenWeb mixedRemote).toOption.any
      fun text => (normalize mixedRemote text).isOk) = true := by decide +kernel
  cases fetched : fetchSource brokenWeb mixedRemote with
  | error e => simp [fetched, Except.toOption] at good
  | ok text =>
    cases given : normalize mixedRemote text with
    | error f => simp [fetched, given, Except.toOption, Except.isOk, Except.toBool] at good
    | ok normalized => exact ⟨text, normalized, rfl, given⟩

theorem interrupts_brokenSettings :
    Interrupts brokenWeb brokenSettings.sources [handSource (Text.of "a") (Text.of "x.json"), mixedRemote]
      brokenRemote [handSource (Text.of "b") (Text.of "y.json")] ⟨.noProviders, []⟩ := by
  refine ⟨rfl, fun s member remote text fetched => ?_, rfl, fails_brokenRemote⟩
  simp only [List.mem_cons, List.not_mem_nil, or_false] at member
  rcases member with rfl | rfl
  · cases remote
  · obtain ⟨text', normalized, own, given⟩ := normal_mixedRemote
    obtain rfl := Except.ok.inj (own.symm.trans fetched)
    exact ⟨normalized, given⟩

theorem fetched_brokenSettings :
    ∀ s ∈ brokenSettings.sources, s.isRemote = true → ∃ text, fetchSource brokenWeb s = .ok text := by
  intro s member remote
  simp only [brokenSettings, sampleSettings, List.mem_cons, List.not_mem_nil, or_false] at member
  rcases member with rfl | rfl | rfl | rfl
  · cases remote
  · obtain ⟨text, -, own, -⟩ := normal_mixedRemote
    exact ⟨text, own⟩
  · obtain ⟨text, own, -⟩ := fails_brokenRemote
    exact ⟨text, own⟩
  · cases remote

theorem exists_stands_sampleFiles :
    ∃ octets, sampleFiles.Stands (.ofText (Text.of "sources/x.json")) (.file octets) := by
  have saved : (Document.saveBundle .empty (.ofText (Text.of "sources/x.json"))
      (.make [] [] [Rule.letterRule 0x61 0x62] .null)).1 = none := by decide +kernel
  exact ⟨_, (Document.saveBundle_ok (Prod.ext saved rfl)).1.stands⟩

/-- The download stops at the third source: the file of the first one stays, the second one is handled, and the last
one gets no file. -/
theorem download_changes_broken :
    ∃ w', (download brokenSettings brokenWeb).run ⟨sampleFiles, []⟩ = (.error (.provider .noProviders), w') ∧
      (∃ octets, w'.files.Stands (.ofText (Text.of "sources/x.json")) (.file octets)) ∧
      Handled brokenSettings brokenWeb sampleFiles w'.files mixedRemote ∧
      ∀ octets, w'.files.at? [Text.of "sources", Text.of "y.json"] ≠ some (.file octets) := by
  have stopped : ((download brokenSettings brokenWeb).run ⟨sampleFiles, []⟩).1 = .error (.provider .noProviders) := by
    decide +kernel
  have ran := Prod.fst_eq_iff.mp stopped
  obtain ⟨-, -, partly, kept⟩ := download_changes brokenSettings brokenWeb _ _ _ (by decide) (by decide) ran
  obtain ⟨-, handled, -, untouched⟩ := partly _ _ _ _ fetched_brokenSettings interrupts_brokenSettings (by simp)
  obtain ⟨octets, stands⟩ := exists_stands_sampleFiles
  have absent : sampleFiles.at? [Text.of "sources", Text.of "y.json"] = none := by decide +kernel
  refine ⟨_, ran, ⟨octets, ?_⟩, handled mixedRemote (by simp), fun octets created => ?_⟩
  · exact kept (handSource (Text.of "a") (Text.of "x.json")) (by simp [brokenSettings, sampleSettings]) rfl _ stands
  · have before := (untouched (handSource (Text.of "b") (Text.of "y.json")) (by simp) octets).mp created
    exact absurd (absent.symm.trans before) (by simp)

/-- The file of the first source is at the place that the path of the second one, which is remote, leads to. -/
def sharedRemote : Config.Settings := sampleSettings
  [handSource (Text.of "a") (Text.of "x.json"), { mixedRemote with file := Text.of "sub/../x.json" }]

/-- The path goes up from a directory that is not there. -/
def absentDirectory : Config.Settings := sampleSettings [handSource (Text.of "a") (Text.of "sub/../x.json")]

/-- The file of the second source has the path of the directory of the first one's. -/
def directoryFirst : Config.Settings := sampleSettings
  [handSource (Text.of "a") (Text.of "x/y.json"), handSource (Text.of "b") (Text.of "x"), brokenRemote]

theorem interrupts_directoryFirst :
    Interrupts brokenWeb directoryFirst.sources
      [handSource (Text.of "a") (Text.of "x/y.json"), handSource (Text.of "b") (Text.of "x")]
      brokenRemote [] ⟨.noProviders, []⟩ := by
  refine ⟨rfl, fun s member remote => ?_, rfl, fails_brokenRemote⟩
  simp only [List.mem_cons, List.not_mem_nil, or_false] at member
  rcases member with rfl | rfl <;> cases remote

theorem fetched_directoryFirst :
    ∀ s ∈ directoryFirst.sources, s.isRemote = true → ∃ text, fetchSource brokenWeb s = .ok text := by
  obtain ⟨text, own, -⟩ := fails_brokenRemote
  intro s member remote
  simp only [directoryFirst, sampleSettings, List.mem_cons, List.not_mem_nil, or_false] at member
  rcases member with rfl | rfl | rfl
  · cases remote
  · cases remote
  · exact ⟨text, own⟩

/-- A source whose URL is a number. -/
def numberedRemote : Config.Source := { mixedRemote with url := .int 5 }

/-- A remote source whose URL has letters for a port. -/
def portlessRemote : Config.Source := { mixedRemote with url := .text (Text.of "http://a:b/") }

def noPort : Web.FetchError := .other (Text.of "Invalid port: 'b'")

/-- It does not suffice that the paths of the files are distinct, since two of them can lead to one place. A file that
is at the place of a path is still not there for it while the path goes up from a missing directory. A source without a
file gets none where a directory has been made for another one. A URL that is no text is not fetched at all, and a text
that is no URL fails with an error that is none of HTTP. -/
theorem download_changes_limits :
    (¬∀ (settings : Config.Settings) (web : Web) (w w' : Workspace) (result : Except Error Report)
        (source : Config.Source) (octets : List Utf8.Octet),
      (settings.sources.map (·.name)).Nodup → (settings.sources.map (pathOf settings)).Nodup →
      source ∈ settings.sources → source.isRemote = false →
      w.files.Stands (pathOf settings source) (.file octets) → (download settings web).run w = (result, w') →
      w'.files.Stands (pathOf settings source) (.file octets)) ∧
    (¬∀ (settings : Config.Settings) (web : Web) (w w' : Workspace) (result : Except Error Report)
        (source : Config.Source) (octets : List Utf8.Octet),
      (settings.sources.map (·.name)).Nodup → (placesOf settings settings.sources).Nodup →
      source ∈ settings.sources → source.isRemote = false →
      w.files.at? (pathOf settings source).place = some (.file octets) → (download settings web).run w = (result, w') →
      w'.files.at? (pathOf settings source).place = some (.file octets)) ∧
    (¬∀ (settings : Config.Settings) (web : Web) (w w' : Workspace) (result : Except Error Report)
        (before after : List Config.Source) (first source : Config.Source) (f : Provider.Failure),
      (settings.sources.map (·.name)).Nodup → (placesOf settings settings.sources).Nodup →
      (∀ s ∈ settings.sources, s.isRemote = true → ∃ text, fetchSource web s = .ok text) →
      Interrupts web settings.sources before first after f → (download settings web).run w = (result, w') →
      (∀ e, result ≠ .error (.save e)) → source ∈ before → source.isRemote = false →
      w.files.contains (pathOf settings source) = false →
      ∃ octets, w'.files.at? (pathOf settings source).place = some (.file octets)) ∧
    (¬∀ (settings : Config.Settings) (web : Web) (w w' : Workspace) (result : Except Error Report)
        (source : Config.Source) (e : Error),
      (settings.sources.map (·.name)).Nodup → (placesOf settings settings.sources).Nodup →
      source ∈ settings.sources → source.isRemote = true → fetchSource web source = .error e →
      (download settings web).run w = (result, w') → ∃ why, result = .error (.fetch why)) ∧
    ¬∀ (settings : Config.Settings) (web : Web) (w w' : Workspace) (result : Except Error Report)
        (source : Config.Source) (url : Text) (e : Error),
      (settings.sources.map (·.name)).Nodup → (placesOf settings settings.sources).Nodup →
      source ∈ settings.sources → source.isRemote = true → source.url = .text url →
      fetchSource web source = .error e → (download settings web).run w = (result, w') →
      ∃ url http, result = .error (.fetch (.http url http)) := by
  obtain ⟨octets, stands⟩ := exists_stands_sampleFiles
  refine ⟨fun claimed => ?_, fun claimed => ?_, fun claimed => ?_, fun claimed => ?_, fun claimed => ?_⟩
  · have ran := Prod.fst_eq_iff.mp (Eq.refl ((download sharedRemote mixedWeb).run ⟨sampleFiles, []⟩).1)
    have kept := claimed _ _ _ _ _ (handSource (Text.of "a") (Text.of "x.json")) octets (by decide) (by decide)
      (by simp [sharedRemote, sampleSettings]) rfl stands ran
    have other : ((download sharedRemote mixedWeb).run ⟨sampleFiles, []⟩).2.files.at?
        (pathOf sharedRemote (handSource (Text.of "a") (Text.of "x.json"))).place ≠
          sampleFiles.at? (Path.ofText (Text.of "sources/x.json")).place := by decide +kernel
    exact other (kept.here.trans stands.here.symm)
  · have ran := Prod.fst_eq_iff.mp (Eq.refl ((download absentDirectory mixedWeb).run ⟨sampleFiles, []⟩).1)
    have kept := claimed _ _ _ _ _ (handSource (Text.of "a") (Text.of "sub/../x.json")) octets (by decide) (by decide)
      (by simp [absentDirectory, sampleSettings]) rfl stands.here ran
    have other : ((download absentDirectory mixedWeb).run ⟨sampleFiles, []⟩).2.files.at?
        (pathOf absentDirectory (handSource (Text.of "a") (Text.of "sub/../x.json"))).place ≠
          sampleFiles.at? (Path.ofText (Text.of "sources/x.json")).place := by decide +kernel
    exact other (kept.trans stands.here.symm)
  · have stopped : ((download directoryFirst brokenWeb).run ⟨.empty, []⟩).1 = .error (.provider .noProviders) := by
      decide +kernel
    obtain ⟨octets, created⟩ := claimed _ _ _ _ _ _ _ _ (handSource (Text.of "b") (Text.of "x")) _ (by decide)
      (by decide) fetched_directoryFirst interrupts_directoryFirst (Prod.fst_eq_iff.mp stopped) (by simp) (by simp) rfl
      (by decide +kernel)
    have made : ((download directoryFirst brokenWeb).run ⟨.empty, []⟩).2.files.at?
        (pathOf directoryFirst (handSource (Text.of "b") (Text.of "x"))).place = some .directory := by decide +kernel
    exact absurd (made.symm.trans created) (by simp)
  · have failed : fetchSource mixedWeb numberedRemote = .error .urlNotText := rfl
    have stopped : ((download (sampleSettings [numberedRemote]) mixedWeb).run ⟨.empty, []⟩).1 = .error .urlNotText := by
      decide +kernel
    obtain ⟨why, other⟩ := claimed _ _ _ _ _ numberedRemote _ (by decide) (by decide) (by simp [sampleSettings]) rfl
      failed (Prod.fst_eq_iff.mp stopped)
    cases other
  · have failed : fetchSource mixedWeb portlessRemote = .error (.fetch noPort) := by decide +kernel
    have stopped : ((download (sampleSettings [portlessRemote]) mixedWeb).run ⟨.empty, []⟩).1 =
        .error (.fetch noPort) := by decide +kernel
    obtain ⟨url, http, told⟩ := claimed _ _ _ _ _ portlessRemote _ _ (by decide) (by decide) (by simp [sampleSettings])
      rfl rfl failed (Prod.fst_eq_iff.mp stopped)
    cases told

end UrlRules.Pipeline
