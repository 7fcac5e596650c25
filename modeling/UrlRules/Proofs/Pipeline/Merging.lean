import UrlRules.Proofs.Pipeline.Refinement

/-!
# Merged bundles

The bundle that a merge has written is loaded as the rules of the merge (`loadBundle_of_merge`), since these have ids
of their own, and another merge drops none of them. The sources are read as they were before it, so merging them again
gives the same bundle (`merge_twice`), as long as no path of a source leads somewhere only because the bundle has got
its directory (`merge_again_limits`).
-/
namespace UrlRules

open Text

/-! ## Loading a bundle -/

namespace Document

variable {files : Files} {path : Path} {name description : Text} {rules : List Rule}

/-- A bundle whose rules have ids of their own is loaded from its file, repeated ids allowed or not. -/
theorem loadBundle_of_holds (holds : files.Holds path (.make name description rules .null)) (named : name.Bounded)
    (described : description.Bounded) (written : ∀ r ∈ rules, r.Written) (distinct : (rules.map (·.id)).Nodup)
    (source : Option Text) (unique : Bool) :
    ∃ bundle, loadBundle files path source unique = .ok bundle ∧ bundle.rules = rules.map (·.fromSource source) := by
  have typed : ∀ r ∈ rules, r.WellTyped := fun r member => (written r member).typed
  have loaded := readJson_of_holds holds (Bundle.regular_make typed trivial)
    (Bundle.bounded_make named described (by simp [Json.texts]) written)
  have read : parse (Bundle.make name description rules .null).toJson source unique =
      .ok (rules.map (·.fromSource source)) :=
    parse_list typed source (fun _ => distinct) (entriesOf_bundle _)
  exact loadBundle_of_parse loaded read

end Document

/-! ## Merging -/

namespace Merge

variable {sources : List RuleSource} {rules : List Rule} {seen : List Text}

theorem fresh_of_nodup (distinct : (rules.map (·.id)).Nodup) (unseen : ∀ r ∈ rules, r.id ∉ seen) :
    fresh seen rules = rules ∧ stale seen rules = [] := by
  induction rules generalizing seen with
  | nil => exact ⟨rfl, rfl⟩
  | cons r rules ih =>
    obtain ⟨new, distinct⟩ := List.nodup_cons.mp distinct
    have apart : r.id ∉ seen := unseen r (by simp)
    obtain ⟨kept, dropped⟩ := @ih (r.id :: seen) distinct fun q member again => by
      rcases List.mem_cons.mp again with same | old
      · exact new (List.mem_map.mpr ⟨q, member, same⟩)
      · exact unseen q (by simp [member]) old
    simp [fresh, stale, apart, kept, dropped]

/-- Of rules with ids of their own nothing is dropped. -/
theorem mergeInputs_alone {name : Text} (named : name ≠ []) (valid : ∀ r ∈ rules, r.Valid)
    (distinct : (rules.map (·.id)).Nodup) :
    mergeInputs true [.of ⟨name, rules⟩] =
      .ok ⟨rules.map (tag name), [(name, 0)], [], [(name, rules.length)]⟩ := by
  have all : fresh [] rules = rules ∧ stale [] rules = [] := fresh_of_nodup distinct (by simp)
  have right : ∀ s ∈ [RuleSource.mk name rules], s.Valid := by simpa using ⟨named, valid⟩
  have merged : mergeInputs true [.of ⟨name, rules⟩] = .ok (summary true [⟨name, rules⟩]) := by
    simpa [mergeAfter] using mergeInputs_valid true right []
  rw [merged, ← merge_eq_summary]
  simp [merge, add, empty, all, count, Json.field?, Json.setField]

/-- Sources that were merged have names. -/
theorem named_of_mergeAfter {start result : MergeResult}
    (merged : mergeAfter true start (sources.map .of) = .ok result) : ∀ s ∈ sources, s.name ≠ [] := by
  induction sources generalizing start with
  | nil => simp
  | cons first sources ih =>
    rw [List.map_cons, mergeAfter] at merged
    obtain ⟨source, read, rest⟩ := bind_eq_ok.mp merged
    have named : first.name ≠ [] := by
      rintro nameless
      simp [Input.of, Input.toSource, nameless, Json.asNonEmptyText?] at read
    obtain rfl : first = source := Except.ok.inj ((toSource_of named).symm.trans read)
    rw [if_pos rfl] at rest
    cases refused : tagError? start first with
    | some e =>
      rw [refused] at rest
      cases rest
    | none =>
      rw [refused] at rest
      exact List.forall_mem_cons.mpr ⟨named, ih rest⟩

/-- What sources of right rules are merged to: rules with ids of their own, each one of a source and tagged. -/
theorem rules_of_mergeInputs {result : MergeResult} (valid : ∀ s ∈ sources, ∀ r ∈ s.rules, r.Valid)
    (merged : mergeInputs true (sources.map .of) = .ok result) :
    (result.rules.map (·.id)).Nodup ∧ ∀ r ∈ result.rules, ∃ s ∈ sources, ∃ q ∈ s.rules, r = tag s.name q := by
  have right : ∀ s ∈ sources, s.Valid := fun s member => ⟨named_of_mergeAfter merged s member, valid s member⟩
  have whole : mergeInputs true (sources.map .of) = .ok (summary true sources) := by
    simpa [mergeAfter] using mergeInputs_valid true right []
  obtain rfl := Except.ok.inj (whole.symm.trans merged)
  refine ⟨by rw [ids_summary]; exact nodup_ids_firsts _, fun r member => ?_⟩
  obtain ⟨entry, first, rfl⟩ := List.mem_map.mp member
  obtain ⟨place, inside, rfl⟩ := List.mem_map.mp first
  obtain ⟨s, among, here⟩ := List.mem_flatMap.mp (List.fst_mem_of_mem_zipIdx (List.mem_of_mem_filter inside))
  obtain ⟨q, own, same⟩ := List.mem_map.mp here
  exact ⟨s, among, q, own, by rw [← same]; rfl⟩

end Merge

/-! ## Reading the sources again -/

namespace Pipeline

variable {settings : Config.Settings} {source : Config.Source} {sources : List Config.Source}
  {w w' again : Workspace} {loaded : RuleSource} {given : List RuleSource} {result : MergeResult}

/-- Reading a source that has a file. -/
theorem run_loadSource_found (there : w.files.contains (pathOf settings source) = true) :
    (loadSource settings source).run w =
      (((Document.loadBundle w.files (pathOf settings source) (some source.name) false).mapError Error.load).map
        fun bundle => ⟨source.name, bundle.rules⟩, w) := by
  unfold loadSource
  rw [run_bind, run_get]
  simp only [there, if_true]
  cases Document.loadBundle w.files (pathOf settings source) (some source.name) false <;> rfl

/-- Reading a source that has none. -/
theorem run_loadSource_missing (missing : w.files.contains (pathOf settings source) = false) :
    (loadSource settings source).run w =
      if source.isRemote then (.error (.missingFile source.name (pathOf settings source)), w)
      else (.ok ⟨source.name, []⟩,
        { w with warnings := w.warnings ++ [missingWarning source (pathOf settings source)] }) := by
  unfold loadSource
  rw [run_bind, run_get]
  simp only [missing, Bool.false_eq_true, if_false]
  split <;> rfl

/-- Reading a source changes no file. -/
theorem files_of_loadSource {answer : Except Error RuleSource}
    (ran : (loadSource settings source).run w = (answer, w')) : w'.files = w.files := by
  cases there : w.files.contains (pathOf settings source) with
  | true =>
    rw [run_loadSource_found there] at ran
    rw [← (Prod.mk.inj ran).2]
  | false =>
    rw [run_loadSource_missing there] at ran
    split at ran <;> rw [← (Prod.mk.inj ran).2]

theorem files_of_loadAll {answer : Except Error (List RuleSource)}
    (ran : (loadAll settings sources).run w = (answer, w')) : w'.files = w.files := by
  induction sources generalizing w answer with
  | nil =>
    cases ran
    rfl
  | cons first sources ih =>
    unfold loadAll at ran
    obtain ⟨e, one, -⟩ | ⟨source, between, one, rest⟩ := cases_of_bind ran
    · exact files_of_loadSource one
    · rw [← files_of_loadSource one]
      obtain ⟨e, others, -⟩ | ⟨given, last, others, ends⟩ := cases_of_bind rest
      · exact ih others
      · cases ends
        exact ih others

/-- Where a source has a file, its rules are read from there; otherwise there are none. -/
theorem loadSource_cases (ran : (loadSource settings source).run w = (.ok loaded, w')) :
    (∃ octets bundle, w.files.Stands (pathOf settings source) (.file octets) ∧
        Document.loadBundle w.files (pathOf settings source) (some source.name) false = .ok bundle ∧
        loaded = ⟨source.name, bundle.rules⟩) ∨
      w.files.contains (pathOf settings source) = false ∧ source.isRemote = false ∧ loaded = ⟨source.name, []⟩ := by
  cases there : w.files.contains (pathOf settings source) with
  | true =>
    obtain ⟨entry, stands⟩ := Files.contains_iff.mp there
    obtain ⟨-, bundle, read, rfl⟩ := loadSource_ok stands ran
    cases entry with
    | directory =>
      rw [Document.loadBundle_of_directory stands] at read
      cases read
    | file octets => exact .inl ⟨octets, bundle, stands, read, rfl⟩
  | false =>
    rw [run_loadSource_missing there] at ran
    split at ran
    · cases ran
    next byHand =>
      cases ran
      exact .inr ⟨rfl, by simpa using byHand, rfl⟩

theorem written_of_loadSource (ran : (loadSource settings source).run w = (.ok loaded, w')) :
    ∀ r ∈ loaded.rules, r.Written := by
  obtain ⟨octets, bundle, -, read, rfl⟩ | ⟨-, -, rfl⟩ := loadSource_cases ran
  · obtain ⟨data, loaded, parsed⟩ := Document.parse_of_loadBundle read
    exact Document.written_of_parse loaded parsed
  · simp

theorem written_of_loadAll (ran : (loadAll settings sources).run w = (.ok given, w')) :
    ∀ s ∈ given, ∀ r ∈ s.rules, r.Written := by
  induction sources generalizing w given with
  | nil =>
    cases ran
    simp
  | cons first sources ih =>
    unfold loadAll at ran
    obtain ⟨source, between, one, rest⟩ := ok_of_bind ran
    obtain ⟨others, last, loads, ends⟩ := ok_of_bind rest
    cases ends
    exact List.forall_mem_cons.mpr ⟨written_of_loadSource one, ih loads⟩

/-- In other files where a source has the same file, or none still, the same rules are read. -/
theorem loadSource_again (ran : (loadSource settings source).run w = (.ok loaded, w'))
    (kept : ∀ octets, w.files.Stands (pathOf settings source) (.file octets) →
      again.files.Stands (pathOf settings source) (.file octets))
    (absent : again.files.contains (pathOf settings source) = true →
      w.files.contains (pathOf settings source) = true) :
    ∃ w'', (loadSource settings source).run again = (.ok loaded, w'') := by
  obtain ⟨octets, bundle, stands, read, rfl⟩ | ⟨none, byHand, rfl⟩ := loadSource_cases ran
  · have stands' := kept octets stands
    rw [Document.loadBundle_congr stands stands'] at read
    refine ⟨again, ?_⟩
    rw [run_loadSource_found (Files.contains_iff.mpr ⟨_, stands'⟩), read]
    rfl
  · have none' : again.files.contains (pathOf settings source) = false := by
      refine Bool.eq_false_iff.mpr fun there => ?_
      rw [absent there] at none
      cases none
    rw [run_loadSource_missing none', byHand]
    exact ⟨_, rfl⟩

theorem loadAll_again (ran : (loadAll settings sources).run w = (.ok given, w'))
    (kept : ∀ s ∈ sources, ∀ octets, w.files.Stands (pathOf settings s) (.file octets) →
      again.files.Stands (pathOf settings s) (.file octets))
    (absent : ∀ s ∈ sources, again.files.contains (pathOf settings s) = true →
      w.files.contains (pathOf settings s) = true) :
    ∃ w'', (loadAll settings sources).run again = (.ok given, w'') := by
  induction sources generalizing w again given with
  | nil =>
    cases ran
    exact ⟨again, rfl⟩
  | cons first sources ih =>
    unfold loadAll at ran
    obtain ⟨source, between, one, rest⟩ := ok_of_bind ran
    obtain ⟨others, last, loads, ends⟩ := ok_of_bind rest
    cases ends
    obtain ⟨between', one'⟩ := loadSource_again one (kept first (by simp)) (absent first (by simp))
    have same := files_of_loadSource one
    have same' := files_of_loadSource one'
    obtain ⟨last', loads'⟩ := @ih between between' _ loads
      (fun s member => by rw [same, same']; exact kept s (by simp [member]))
      (fun s member => by rw [same, same']; exact absent s (by simp [member]))
    refine ⟨last', ?_⟩
    unfold loadAll
    rw [run_bind, one']
    dsimp only
    rw [run_bind, loads']
    rfl

/-! ## Merging again -/

/-- The bundle of merged rules. -/
def mergedBundle (settings : Config.Settings) (result : MergeResult) : Bundle :=
  .make settings.bundleName settings.bundleDescription result.rules .null

/-- A merge reads the sources, merges them, and then saves the bundle. -/
theorem merge_eq (settings : Config.Settings) (w : Workspace) :
    (merge settings).run w =
      match (loadAll settings settings.sources).run w with
      | (.error e, w') => (.error e, w')
      | (.ok given, w') =>
        match Merge.mergeInputs true (given.map .of) with
        | .error e => (.error (.merge e), w')
        | .ok result =>
          match Document.saveBundle w'.files settings.bundleOutput (mergedBundle settings result) with
          | (some failure, files) => (.error (.save failure), { w' with files })
          | (none, files) => (.ok result, { w' with files }) := by
  unfold merge
  rw [run_bind, load]
  rcases (loadAll settings settings.sources).run w with ⟨answer, w'⟩
  cases answer with
  | error e => rfl
  | ok given =>
    have inputs : given.map inputOf = given.map .of := rfl
    dsimp only
    rw [inputs]
    cases Merge.mergeInputs true (given.map .of) with
    | error e => rfl
    | ok result =>
      dsimp only
      rw [run_bind, save, run_bind, run_get]
      dsimp only
      rw [mergedBundle]
      rcases Document.saveBundle w'.files settings.bundleOutput
        (.make settings.bundleName settings.bundleDescription result.rules .null) with ⟨failure, files⟩
      cases failure <;> rfl

/-- A merge that succeeds has done all of it. -/
theorem merge_ok (ran : (merge settings).run w = (.ok result, w')) :
    ∃ given between, (loadAll settings settings.sources).run w = (.ok given, between) ∧
      Merge.mergeInputs true (given.map .of) = .ok result ∧
      Document.saveBundle w.files settings.bundleOutput (mergedBundle settings result) = (none, w'.files) := by
  rw [merge_eq] at ran
  split at ran
  · cases ran
  next given between loads =>
    split at ran
    · cases ran
    next merged =>
      split at ran
      · cases ran
      next saved =>
        cases ran
        exact ⟨given, between, loads, merged, files_of_loadAll loads ▸ saved⟩

variable {bundle : Bundle}

/-- Merged rules of files are written, and have ids of their own. -/
theorem written_of_merge (loads : (loadAll settings sources).run w = (.ok given, w'))
    (merged : Merge.mergeInputs true (given.map .of) = .ok result) :
    (∀ r ∈ result.rules, r.Written) ∧ (result.rules.map (·.id)).Nodup := by
  have written := written_of_loadAll loads
  obtain ⟨distinct, origin⟩ := Merge.rules_of_mergeInputs
    (fun s member r inside => (written s member r inside).typed.valid) merged
  refine ⟨fun r member => ?_, distinct⟩
  obtain ⟨s, among, q, inside, rfl⟩ := origin r member
  exact (written s among q inside).fromSource _

/-- The bundle that was written is loaded as the merged rules, of which another merge drops none. -/
theorem loadBundle_of_merge (named : settings.bundleName.Bounded) (described : settings.bundleDescription.Bounded)
    (ran : (merge settings).run w = (.ok result, w')) (source : Option Text) (unique : Bool) :
    ∃ bundle, Document.loadBundle w'.files settings.bundleOutput source unique = .ok bundle ∧
      bundle.rules = result.rules.map (·.fromSource source) ∧
      ∀ name ≠ [], Merge.mergeInputs true [.of ⟨name, bundle.rules⟩] =
        .ok ⟨bundle.rules.map (Merge.tag name), [(name, 0)], [], [(name, bundle.rules.length)]⟩ := by
  obtain ⟨given, between, loads, merged, saved⟩ := merge_ok ran
  obtain ⟨written, distinct⟩ := written_of_merge loads merged
  obtain ⟨bundle, loaded, rules⟩ := Document.loadBundle_of_holds (Document.saveBundle_ok saved).1 named described
    written distinct source unique
  refine ⟨bundle, loaded, rules, fun name proper => Merge.mergeInputs_alone proper ?_ ?_⟩
  · rw [rules]
    exact List.forall_mem_map.mpr fun r member => (written r member).typed.valid.fromSource source
  · rw [rules, List.map_map]
    exact distinct

/-- After the bundle has been saved it can be saved again, where it stands already. -/
theorem saveBundle_again (saved : Document.saveBundle w.files settings.bundleOutput bundle = (none, w'.files))
    (same : again.files = w'.files) :
    ∃ files, Document.saveBundle again.files settings.bundleOutput bundle = (none, files) ∧
      files.read settings.bundleOutput = w'.files.read settings.bundleOutput := by
  obtain ⟨scalar, stands⟩ := (Document.saveBundle_ok saved).1
  obtain ⟨files, saved', holds⟩ := Document.exists_saveBundle scalar (Document.writable_of_saveBundle saved)
  rw [same]
  exact ⟨files, saved', by rw [Files.read_of_stands holds.stands, Files.read_of_stands stands]⟩

/-- Merging again gives the same rules and the same file. -/
theorem merge_twice (ran : (merge settings).run w = (.ok result, w'))
    (apart : ∀ s ∈ settings.sources, (pathOf settings s).place ≠ settings.bundleOutput.place)
    (absent : ∀ made, w.files.makeParent settings.bundleOutput = .ok made → ∀ s ∈ settings.sources,
      made.contains (pathOf settings s) = true → w.files.contains (pathOf settings s) = true) :
    ∃ w'', (merge settings).run w' = (.ok result, w'') ∧
      w''.files.read settings.bundleOutput = w'.files.read settings.bundleOutput := by
  obtain ⟨given, between, loads, merged, saved⟩ := merge_ok ran
  obtain ⟨-, made, parent, wrote⟩ := Document.steps_of_writeText saved
  have changes := (Document.saveBundle_ok saved).2
  obtain ⟨between', loads'⟩ := @loadAll_again _ _ _ _ w' _ loads
    (fun s member octets stands => stands.changes changes (by simpa using apart s member))
    (fun s member there => by
      obtain ⟨entry, stands⟩ := Files.contains_iff.mp there
      exact absent made parent s member (Files.contains_iff.mpr ⟨entry, stands.of_write wrote (apart s member)⟩))
  obtain ⟨files, saved', read⟩ := saveBundle_again saved (files_of_loadAll loads')
  refine ⟨{ between' with files }, ?_, read⟩
  rw [merge_eq, loads']
  dsimp only
  rw [merged]
  dsimp only
  rw [saved']

/-- A merge that fails before it saves has changed no file. -/
theorem files_of_merge_error {e : Error} (ran : (merge settings).run w = (.error e, w'))
    (unsaved : ∀ failure, e ≠ .save failure) : w'.files = w.files := by
  rw [merge_eq] at ran
  split at ran
  next loads =>
    cases ran
    exact files_of_loadAll loads
  next loads =>
    split at ran
    · cases ran
      exact files_of_loadAll loads
    · split at ran
      · cases ran
        exact absurd rfl (unsaved _)
      · cases ran

/-- The bundle of a merge is loaded as its rules, merging it drops none of them, and merging the sources again
gives the same bundle. A merge that fails before it saves leaves the bundle as it was. -/
theorem merge_again (settings : Config.Settings) (w : Workspace) (named : settings.bundleName.Bounded)
    (described : settings.bundleDescription.Bounded) :
    (∀ result w', (merge settings).run w = (.ok result, w') →
      (∀ source unique, ∃ bundle, Document.loadBundle w'.files settings.bundleOutput source unique = .ok bundle ∧
        bundle.rules = result.rules.map (·.fromSource source) ∧
        ∀ name ≠ [], Merge.mergeInputs true [.of ⟨name, bundle.rules⟩] =
          .ok ⟨bundle.rules.map (Merge.tag name), [(name, 0)], [], [(name, bundle.rules.length)]⟩) ∧
      ((∀ s ∈ settings.sources, (pathOf settings s).place ≠ settings.bundleOutput.place) →
        (∀ made, w.files.makeParent settings.bundleOutput = .ok made → ∀ s ∈ settings.sources,
          made.contains (pathOf settings s) = true → w.files.contains (pathOf settings s) = true) →
        ∃ w'', (merge settings).run w' = (.ok result, w'') ∧
          w''.files.read settings.bundleOutput = w'.files.read settings.bundleOutput)) ∧
    ∀ e w', (merge settings).run w = (.error e, w') → (∀ failure, e ≠ .save failure) → w'.files = w.files :=
  ⟨fun _ _ ran => ⟨loadBundle_of_merge named described ran, merge_twice ran⟩, fun _ _ => files_of_merge_error⟩

/-! ## Samples -/

/-- Two sources with one file, and one that has none. -/
def sharedSettings : Config.Settings :=
  { sampleSettings
      [handSource (Text.of "a") (Text.of "x.json"), handSource (Text.of "b") (Text.of "x.json"),
        handSource (Text.of "c") (Text.of "d/y.json")] with
    bundleOutput := .ofText (Text.of "out/shared.json") }

def sharedResult : MergeResult where
  rules := [(Rule.letterRule 0x61 0x62).fromSource (some (Text.of "a"))]
  duplicates := [(Text.of "a", 0), (Text.of "b", 1), (Text.of "c", 0)]
  skipped := [(Text.of "b", [0x61])]
  counts := [(Text.of "a", 1), (Text.of "b", 1), (Text.of "c", 0)]

/-- The repeated rule is in the bundle once, and merging again leaves the file as it is. -/
theorem merge_again_shared :
    ∃ w' w'', (merge sharedSettings).run ⟨sampleFiles, []⟩ = (.ok sharedResult, w') ∧
      (∃ bundle, Document.loadBundle w'.files sharedSettings.bundleOutput none true = .ok bundle ∧
        bundle.rules = [Rule.letterRule 0x61 0x62]) ∧
      (merge sharedSettings).run w' = (.ok sharedResult, w'') ∧
      w''.files.read sharedSettings.bundleOutput = w'.files.read sharedSettings.bundleOutput := by
  have merged : ((merge sharedSettings).run ⟨sampleFiles, []⟩).1 = .ok sharedResult := by decide +kernel
  have ran := Prod.fst_eq_iff.mp merged
  have apart : ∀ s ∈ sharedSettings.sources,
      (pathOf sharedSettings s).place ≠ sharedSettings.bundleOutput.place := by decide
  have absent : ∀ made, sampleFiles.makeParent sharedSettings.bundleOutput = .ok made →
      ∀ s ∈ sharedSettings.sources, made.contains (pathOf sharedSettings s) = true →
        sampleFiles.contains (pathOf sharedSettings s) = true := by
    intro made parent
    have directory : sampleFiles.makeParent sharedSettings.bundleOutput =
        .ok (sampleFiles.put [Text.of "out"] .directory) := by decide +kernel
    obtain rfl := Except.ok.inj (directory.symm.trans parent)
    decide +kernel
  obtain ⟨read, twice⟩ := (merge_again sharedSettings ⟨sampleFiles, []⟩ (by decide) (by decide)).1 _ _ ran
  obtain ⟨bundle, loaded, rules, -⟩ := read none true
  obtain ⟨w'', again, same⟩ := twice apart absent
  exact ⟨_, w'', ran, ⟨bundle, loaded, rules⟩, again, same⟩

/-- A source whose path goes through the directory that is only made for the bundle. -/
def throughOutput : Config.Settings :=
  { sampleSettings [handSource (Text.of "a") (Text.of "../out/../sources/x.json")] with
    bundleOutput := .ofText (Text.of "out/shared.json") }

/-- That the bundle is in no file of a source is not enough for merging again: a path can come to lead
somewhere when the directory of the bundle has been made. -/
theorem merge_again_limits :
    ¬∀ (settings : Config.Settings) (w w' : Workspace) (result : MergeResult),
      (∀ s ∈ settings.sources, (pathOf settings s).place ≠ settings.bundleOutput.place) →
      (merge settings).run w = (.ok result, w') →
      ∃ w'', (merge settings).run w' = (.ok result, w'') := by
  intro claimed
  have first : ((merge throughOutput).run ⟨sampleFiles, []⟩).1 = .ok (Merge.merge true [⟨Text.of "a", []⟩]) := by
    decide +kernel
  obtain ⟨w'', again⟩ := claimed throughOutput _ _ _ (by decide) (Prod.fst_eq_iff.mp first)
  have second : ((merge throughOutput).run ((merge throughOutput).run ⟨sampleFiles, []⟩).2).1 =
      .ok (Merge.merge true [⟨Text.of "a", [Rule.letterRule 0x61 0x62]⟩]) := by decide +kernel
  rw [again] at second
  exact absurd (Except.ok.inj second) (by decide +kernel)

end Pipeline
end UrlRules
