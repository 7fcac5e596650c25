import UrlRules.Pipeline.Download
import UrlRules.Proofs.Document.File
import UrlRules.Proofs.Json.Fields
import UrlRules.Proofs.Provider.Normalize
import UrlRules.Proofs.Results

/-!
# What a download leaves behind

Handling a source changes nothing but what stands at the place of its file, and the directories on the way to
it, whether it succeeds or not (`confined_handle`). So where the files of all sources have places of their own, a
source that has been `Handled` stays so. If the path of a file that is maintained by hand does not come to lead
anywhere by itself, a download leaves every source `Settled`: the file of a remote one holds the rules of its document,
and a file that is maintained by hand is the one that was there or, if there was none, holds no rules
(`settled_of_download`).
-/
namespace UrlRules.Pipeline

open Text

variable {α β : Type} {settings : Config.Settings} {web : Web} {start files files' : Files}
  {source : Config.Source} {sources : List Config.Source} {texts : List (Text × Text)}
  {report report' : Report} {w w' : Workspace}

/-! ## Running actions -/

/-- Saving a bundle puts the files as they are after it, whether it succeeds or not. -/
theorem run_save (path : Path) (bundle : Bundle) (w : Workspace) :
    (save path bundle).run w =
      ((match (Document.saveBundle w.files path bundle).1 with
        | none => .ok ⟨⟩
        | some e => .error (.save e)), { w with files := (Document.saveBundle w.files path bundle).2 }) := by
  unfold save
  rw [run_bind, run_get]
  dsimp only
  rw [run_bind, run_modify]
  dsimp only
  cases (Document.saveBundle w.files path bundle).1 <;> rfl

theorem save_ok {path : Path} {bundle : Bundle} {u : Unit} (ran : (save path bundle).run w = (.ok u, w')) :
    w'.files.Holds path bundle := by
  rw [run_save] at ran
  obtain ⟨result, rfl⟩ := Prod.mk.inj ran
  cases failure : (Document.saveBundle w.files path bundle).1 with
  | none => exact (Document.saveBundle_ok (Prod.ext failure rfl)).1
  | some e => simp [failure] at result

theorem save_error {path : Path} {bundle : Bundle} {e : Error} (ran : (save path bundle).run w = (.error e, w')) :
    ∃ failure, e = .save failure := by
  rw [run_save] at ran
  have result := (Prod.mk.inj ran).1
  cases failure : (Document.saveBundle w.files path bundle).1 with
  | none => simp [failure] at result
  | some failure' => exact ⟨failure', by simpa [failure] using result.symm⟩

/-! ## Where an action changes files -/

/-- The action changes nothing elsewhere than at some places, whether it succeeds or not. -/
def Confined (places : List Place) (x : Action α) : Prop :=
  ∀ w, Files.Changes places w.files (x.run w).2.files

namespace Confined

variable {places : List Place} {x : Action α} {f : α → Action β}

theorem changes {result : Except Error α} (confined : Confined places x) (ran : x.run w = (result, w')) :
    Files.Changes places w.files w'.files := by
  have changes := confined w
  rwa [ran] at changes

/-- An action that leaves the files as they are. -/
theorem of_files (same : ∀ w, (x.run w).2.files = w.files) : Confined places x := fun w => by
  rw [same]
  exact (Files.Changes.refl _).mono (List.nil_subset _)

theorem bind (first : Confined places x) (next : ∀ a, Confined places (f a)) : Confined places (x >>= f) := by
  intro w
  rw [run_bind]
  rcases ran : x.run w with ⟨result, between⟩
  cases result with
  | error e => exact first.changes ran
  | ok a => exact ((first.changes ran).trans (next a between)).mono (List.append_subset.mpr ⟨.refl _, .refl _⟩)

theorem mono {places' : List Place} (confined : Confined places x) (subset : places ⊆ places') : Confined places' x :=
  fun w => (confined w).mono subset

end Confined

theorem confined_save (path : Path) (bundle : Bundle) : Confined [path.place] (save path bundle) := fun w => by
  rw [run_save]
  exact Document.changes_writeText w.files path bundle.text

theorem confined_writeRemote (settings : Config.Settings) (texts : List (Text × Text)) (report : Report)
    (source : Config.Source) :
    Confined [(pathOf settings source).place] (writeRemote settings texts report source) := by
  unfold writeRemote
  split
  · exact .bind (.of_files fun _ => rfl) fun _ => .of_files fun _ => rfl
  · exact .bind (.of_files fun _ => rfl) fun _ => .bind (confined_save _ _) fun _ => .of_files fun _ => rfl

theorem confined_createTemplate (settings : Config.Settings) (report : Report) (source : Config.Source) :
    Confined [(pathOf settings source).place] (createTemplate settings report source) := by
  unfold createTemplate
  refine .bind (.of_files fun _ => rfl) fun now => ?_
  split
  · exact .of_files fun _ => rfl
  · exact .bind (confined_save _ _) fun _ => .of_files fun _ => rfl

theorem confined_handle (settings : Config.Settings) (texts : List (Text × Text)) (report : Report)
    (source : Config.Source) : Confined [(pathOf settings source).place] (handle settings texts report source) := by
  unfold handle
  split
  · exact confined_writeRemote settings texts report source
  · exact confined_createTemplate settings report source

/-- The places of the files of sources. -/
def placesOf (settings : Config.Settings) (sources : List Config.Source) : List Place :=
  sources.map fun source => (pathOf settings source).place

/-- Handling sources changes nothing elsewhere than at the places of their files. -/
theorem confined_handleAll (settings : Config.Settings) (texts : List (Text × Text)) (report : Report)
    (sources : List Config.Source) :
    Confined (placesOf settings sources) (handleAll settings texts report sources) := by
  induction sources generalizing report with
  | nil => exact .of_files fun _ => rfl
  | cons first sources ih =>
    unfold handleAll
    exact .bind ((confined_handle settings texts report first).mono (by simp [placesOf])) fun report =>
      (ih report).mono (List.subset_cons_self ..)

/-! ## Names and documents -/

/-- Writes under distinct names are found each by its own. -/
theorem field?_of_forall₂ {given : Config.Source → Text → Prop}
    (all : List.Forall₂ (fun s write => ∃ text, given s text ∧ (s.name, text) = write) sources texts)
    (distinct : (sources.map (·.name)).Nodup) :
    texts.map (·.1) = sources.map (·.name) ∧
      ∀ s ∈ sources, ∃ text, given s text ∧ Json.field? texts s.name = some text := by
  induction all with
  | nil => simp
  | @cons first _ sources others own _ ih =>
    obtain ⟨text, here, rfl⟩ := own
    obtain ⟨new, distinct⟩ := List.nodup_cons.mp distinct
    obtain ⟨names, found⟩ := ih distinct
    refine ⟨by simp [names], fun s member => ?_⟩
    rcases List.mem_cons.mp member with rfl | later
    · exact ⟨text, here, if_pos rfl⟩
    · obtain ⟨document, there, stands⟩ := found s later
      have apart : first.name ≠ s.name := fun same =>
        new (List.mem_map.mpr ⟨s, later, same.symm⟩)
      exact ⟨document, there, by rw [Json.field?, if_neg apart, stands]⟩

/-- Every remote source finds its own document. -/
theorem document_of_fetchAll (distinct : (sources.map (·.name)).Nodup)
    (fetched : fetchAll web sources = .ok texts) (member : source ∈ sources) (remote : source.isRemote) :
    ∃ text, fetchSource web source = .ok text ∧ Json.field? texts source.name = some text := by
  obtain ⟨writes, given, wrote⟩ := bind_eq_ok.mp fetched
  have all : List.Forall₂ (fun s write => ∃ text, fetchSource web s = .ok text ∧ (s.name, text) = write)
      (sources.filter (·.isRemote)) writes := by
    refine (mapM_eq_ok.mp given).imp fun s write one => ?_
    obtain ⟨text, own, named⟩ := bind_eq_ok.mp one
    exact ⟨text, own, Except.ok.inj named⟩
  have remaining : ((sources.filter (·.isRemote)).map (·.name)).Nodup :=
    distinct.sublist (List.filter_sublist.map _)
  obtain ⟨names, found⟩ := field?_of_forall₂ all remaining
  obtain rfl : Json.ofWrites writes = texts := Except.ok.inj wrote
  rw [Json.ofWrites_of_nodup (names ▸ remaining)]
  exact found source (List.mem_filter.mpr ⟨member, remote⟩)

/-! ## One source -/

/-- What a download that began with the files `start` has made of a source when it comes to it. -/
inductive Handled (settings : Config.Settings) (web : Web) (start files : Files) (source : Config.Source) :
    Prop
  /-- The file of a remote source holds the rules of its document. -/
  | written {text : Text} {normalized : Provider.Normalized} (remote : source.isRemote = true)
      (fetched : fetchSource web source = .ok text) (given : normalize source text = .ok normalized)
      (holds : files.Holds (pathOf settings source)
        (bundleOf source normalized.rules (writeRemote.originOf source.url)))
  /-- What was there for a source that is maintained by hand is still there. -/
  | kept {entry : FileEntry} (byHand : source.isRemote = false)
      (before : start.Stands (pathOf settings source) entry)
      (stands : files.Stands (pathOf settings source) entry)
  /-- The file that was not there holds no rules. -/
  | created (byHand : source.isRemote = false) (absent : start.contains (pathOf settings source) = false)
      (holds : files.Holds (pathOf settings source) (bundleOf source [] .null))
  /-- The path of the file that was not there has come to lead to what stood at its place, or to a directory. -/
  | met {entry : FileEntry} (byHand : source.isRemote = false)
      (absent : start.contains (pathOf settings source) = false)
      (stands : files.Stands (pathOf settings source) entry)
      (there : start.at? (pathOf settings source).place = some entry ∨ entry = .directory)

theorem Handled.changes {places : List Place} (handled : Handled settings web start files source)
    (changes : Files.Changes places files files') (apart : (pathOf settings source).place ∉ places) :
    Handled settings web start files' source := by
  cases handled with
  | written remote fetched given holds =>
    exact .written remote fetched given ⟨holds.scalar, holds.stands.changes changes apart⟩
  | kept byHand before stands => exact .kept byHand before (stands.changes changes apart)
  | created byHand absent holds =>
    exact .created byHand absent ⟨holds.scalar, holds.stands.changes changes apart⟩
  | met byHand absent stands there => exact .met byHand absent (stands.changes changes apart) there

/-- What a download that began with the files `start` has made of a source whose path led to what stood there. -/
inductive Settled (settings : Config.Settings) (web : Web) (start files : Files) (source : Config.Source) :
    Prop
  /-- The file of a remote source holds the rules of its document. -/
  | written {text : Text} {normalized : Provider.Normalized} (remote : source.isRemote = true)
      (fetched : fetchSource web source = .ok text) (given : normalize source text = .ok normalized)
      (holds : files.Holds (pathOf settings source)
        (bundleOf source normalized.rules (writeRemote.originOf source.url)))
  /-- What was there for a source that is maintained by hand is still there. -/
  | kept {entry : FileEntry} (byHand : source.isRemote = false)
      (before : start.Stands (pathOf settings source) entry)
      (stands : files.Stands (pathOf settings source) entry)
  /-- The file that was not there holds no rules. -/
  | created (byHand : source.isRemote = false) (absent : start.contains (pathOf settings source) = false)
      (holds : files.Holds (pathOf settings source) (bundleOf source [] .null))
  /-- There is a directory in place of the file that was not there. -/
  | blocked (byHand : source.isRemote = false)
      (stands : files.Stands (pathOf settings source) .directory)

theorem Handled.settled (handled : Handled settings web start files source)
    (reaches : source.isRemote = false → start.Reaches (pathOf settings source)) :
    Settled settings web start files source := by
  cases handled with
  | written remote fetched given holds => exact .written remote fetched given holds
  | kept byHand before stands => exact .kept byHand before stands
  | created byHand absent holds => exact .created byHand absent holds
  | met byHand absent stands there =>
    rcases there with there | rfl
    · have stood := Files.contains_iff.mpr ⟨_, reaches byHand (by simp [there]), there⟩
      rw [absent] at stood
      cases stood
    · exact .blocked byHand stands

theorem writeRemote_ok {text : Text} (found : Json.field? texts source.name = some text)
    (ran : (writeRemote settings texts report source).run w = (.ok report', w')) :
    ∃ normalized, normalize source text = .ok normalized ∧
      w'.files.Holds (pathOf settings source)
        (bundleOf source normalized.rules (writeRemote.originOf source.url)) := by
  unfold writeRemote at ran
  rw [found, Option.getD_some] at ran
  split at ran
  · obtain ⟨_, _, _, stopped⟩ := ok_of_bind ran
    cases stopped
  next normalized given =>
    obtain ⟨_, warned, -, ran⟩ := ok_of_bind ran
    obtain ⟨_, saved, saving, ran⟩ := ok_of_bind ran
    cases ran
    exact ⟨normalized, given, save_ok saving⟩

theorem createTemplate_ok (ran : (createTemplate settings report source).run w = (.ok report', w')) :
    w.files.contains (pathOf settings source) = true ∧ w' = w ∨
      w.files.contains (pathOf settings source) = false ∧
        w'.files.Holds (pathOf settings source) (bundleOf source [] .null) := by
  unfold createTemplate at ran
  obtain ⟨now, between, read, rest⟩ := ok_of_bind ran
  obtain ⟨rfl, rfl⟩ := eq_of_get read
  split at rest
  next there =>
    cases rest
    exact .inl ⟨there, rfl⟩
  next absent =>
    obtain ⟨_, saved, saving, last⟩ := ok_of_bind rest
    cases last
    exact .inr ⟨by simpa using absent, save_ok saving⟩

/-- What is there for a source that is maintained by hand is kept; for one that has nothing yet a file is
created, unless its path has come to lead somewhere. So far nothing has changed there. -/
theorem createTemplate_handles {places : List Place} (byHand : source.isRemote = false)
    (since : Files.Changes places start w.files) (apart : (pathOf settings source).place ∉ places)
    (ran : (createTemplate settings report source).run w = (.ok report', w')) :
    Handled settings web start w'.files source := by
  cases before : start.contains (pathOf settings source) with
  | true =>
    obtain ⟨entry, stood⟩ := Files.contains_iff.mp before
    have stands := stood.changes since apart
    rcases createTemplate_ok ran with ⟨-, rfl⟩ | ⟨absent, -⟩
    · exact .kept byHand stood stands
    · rw [Files.contains_iff.mpr ⟨entry, stands⟩] at absent
      cases absent
  | false =>
    rcases createTemplate_ok ran with ⟨there, rfl⟩ | ⟨-, holds⟩
    · obtain ⟨entry, stands⟩ := Files.contains_iff.mp there
      refine .met byHand before stands ?_
      rcases since.others _ apart with same | ⟨-, made⟩
      · exact .inl (same ▸ stands.here)
      · exact .inr (Option.some.inj (stands.here.symm.trans made))
    · exact .created byHand before holds

/-- A source that has found its document is handled. -/
theorem handle_ok {places : List Place}
    (found : source.isRemote = true →
      ∃ text, fetchSource web source = .ok text ∧ Json.field? texts source.name = some text)
    (since : Files.Changes places start w.files) (apart : (pathOf settings source).place ∉ places)
    (ran : (handle settings texts report source).run w = (.ok report', w')) :
    Handled settings web start w'.files source := by
  unfold handle at ran
  split at ran
  next remote =>
    obtain ⟨text, fetched, stands⟩ := found remote
    obtain ⟨normalized, given, holds⟩ := writeRemote_ok stands ran
    exact .written remote fetched given holds
  next other =>
    have byHand : source.isRemote = false := by simpa using other
    exact createTemplate_handles byHand since apart ran

/-! ## All sources -/

theorem handleAll_ok {places : List Place}
    (found : ∀ s ∈ sources, s.isRemote = true →
      ∃ text, fetchSource web s = .ok text ∧ Json.field? texts s.name = some text)
    (since : Files.Changes places start w.files) (distinct : (places ++ placesOf settings sources).Nodup)
    (ran : (handleAll settings texts report sources).run w = (.ok report', w')) :
    ∀ s ∈ sources, Handled settings web start w'.files s := by
  induction sources generalizing places report w with
  | nil => exact List.forall_mem_nil _
  | cons first sources ih =>
    unfold handleAll at ran
    obtain ⟨middle, between, one, rest⟩ := ok_of_bind ran
    -- `places` grows by the place of each source that has been handled.
    have distinct' : ((places ++ [(pathOf settings first).place]) ++ placesOf settings sources).Nodup := by
      simpa [placesOf] using distinct
    obtain ⟨own, -, apart⟩ := List.nodup_append.mp distinct'
    have fresh : (pathOf settings first).place ∉ places := fun again =>
      (List.nodup_append.mp own).2.2 _ again _ (by simp) rfl
    have later : (pathOf settings first).place ∉ placesOf settings sources := fun again =>
      apart _ (by simp) _ again rfl
    have changes := (confined_handle settings texts report first).changes one
    have handled := handle_ok (found first (by simp)) since fresh one
    refine List.forall_mem_cons.mpr ⟨?_, ?_⟩
    · exact handled.changes ((confined_handleAll settings texts middle sources).changes rest) later
    · exact ih (fun s member => found s (by simp [member])) (since.trans changes) distinct' rest

/-- A download that succeeds has handled all sources, if their names and the places of their files are distinct. Only
at these places, and to make directories, has it changed anything. -/
theorem handled_of_download (names : (settings.sources.map (·.name)).Nodup)
    (places : (placesOf settings settings.sources).Nodup)
    (ran : (download settings web).run w = (.ok report, w')) :
    (∀ s ∈ settings.sources, Handled settings web w.files w'.files s) ∧
      Files.Changes (placesOf settings settings.sources) w.files w'.files := by
  unfold download at ran
  split at ran
  · cases ran
  next texts fetched =>
    exact ⟨handleAll_ok (fun s => document_of_fetchAll names fetched) (.refl _) places ran,
      (confined_handleAll _ _ _ _).changes ran⟩

/-- The sources are then settled, where the paths of those maintained by hand lead to what stands at their places. -/
theorem settled_of_download (names : (settings.sources.map (·.name)).Nodup)
    (places : (placesOf settings settings.sources).Nodup)
    (reaches : ∀ s ∈ settings.sources, s.isRemote = false → w.files.Reaches (pathOf settings s))
    (ran : (download settings web).run w = (.ok report, w')) :
    (∀ s ∈ settings.sources, Settled settings web w.files w'.files s) ∧
      Files.Changes (placesOf settings settings.sources) w.files w'.files := by
  obtain ⟨handled, changes⟩ := handled_of_download names places ran
  exact ⟨fun s member => (handled s member).settled (reaches s member), changes⟩

/-! ## The file of one remote source -/

/-- The file of a remote source holds the rules of its document after all sources have been handled, if no other
source has its place. -/
theorem holds_of_handleAll
    (found : ∀ s ∈ sources, s.isRemote = true →
      ∃ text, fetchSource web s = .ok text ∧ Json.field? texts s.name = some text)
    (distinct : sources.Nodup) (member : source ∈ sources) (remote : source.isRemote = true)
    (apart : ∀ s ∈ sources, (pathOf settings s).place = (pathOf settings source).place → s = source)
    (ran : (handleAll settings texts report sources).run w = (.ok report', w')) :
    ∃ text normalized, fetchSource web source = .ok text ∧ normalize source text = .ok normalized ∧
      w'.files.Holds (pathOf settings source)
        (bundleOf source normalized.rules (writeRemote.originOf source.url)) := by
  induction sources generalizing report w with
  | nil => cases member
  | cons first sources ih =>
    unfold handleAll at ran
    obtain ⟨middle, between, one, rest⟩ := ok_of_bind ran
    obtain ⟨new, distinct⟩ := List.nodup_cons.mp distinct
    have others := fun s inside => found s (List.mem_cons_of_mem first inside)
    rcases List.mem_cons.mp member with rfl | later
    · obtain ⟨text, fetched, stands⟩ := found source (by simp) remote
      rw [handle, if_pos remote] at one
      obtain ⟨normalized, given, holds⟩ := writeRemote_ok stands one
      have changes := (confined_handleAll settings texts middle sources).changes rest
      have own : (pathOf settings source).place ∉ placesOf settings sources := fun again => by
        obtain ⟨s, inside, same⟩ := List.mem_map.mp again
        exact new (apart s (by simp [inside]) same ▸ inside)
      exact ⟨text, normalized, fetched, given, holds.scalar, holds.stands.changes changes own⟩
    · exact ih others distinct later (fun s inside => apart s (by simp [inside])) rest

theorem holds_of_download (names : (settings.sources.map (·.name)).Nodup) (member : source ∈ settings.sources)
    (remote : source.isRemote = true)
    (apart : ∀ s ∈ settings.sources, (pathOf settings s).place = (pathOf settings source).place → s = source)
    (ran : (download settings web).run w = (.ok report, w')) :
    ∃ text normalized, fetchSource web source = .ok text ∧ normalize source text = .ok normalized ∧
      w'.files.Holds (pathOf settings source)
        (bundleOf source normalized.rules (writeRemote.originOf source.url)) := by
  unfold download at ran
  split at ran
  · cases ran
  next texts fetched =>
    exact holds_of_handleAll (fun s => document_of_fetchAll names fetched) (.of_map _ names) member remote apart ran

end UrlRules.Pipeline
