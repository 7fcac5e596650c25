import UrlRules.Pipeline.Build
import UrlRules.Proofs.Config.Sources
import UrlRules.Proofs.Merge.Conservation
import UrlRules.Proofs.Pipeline.Download
import UrlRules.Web.Routes

/-!
# Building through files and in memory

What a source contributes can be said without writing any file (`contribution`), and so can what all of them
are merged to (`inMemory`). A build that succeeds gives just that (`inMemory_of_build`): what a download
writes for a source is read back as what the source contributes.
-/
namespace UrlRules.Pipeline

open Text

variable {settings : Config.Settings} {web : Web} {start : Files} {source : Config.Source}
  {sources : List Config.Source} {loaded : RuleSource} {w w' : Workspace}

/-- The rules that a source contributes: a remote one those of its document, and one that is maintained by
hand those of its file, or none if it has no file. -/
def contribution (settings : Config.Settings) (web : Web) (files : Files) (source : Config.Source) :
    Except Error (List Rule) :=
  let path := pathOf settings source
  if source.isRemote then do
    match normalize source (← fetchSource web source) with
    | .error failure => .error (.provider failure.error)
    | .ok normalized => .ok (normalized.rules.map (·.fromSource (some source.name)))
  else if files.contains path then
    match Document.loadBundle files path (some source.name) false with
    | .error e => .error (.load e)
    | .ok bundle => .ok bundle.rules
  else .ok []

/-- A source in memory. -/
def offer (settings : Config.Settings) (web : Web) (files : Files) (source : Config.Source) :
    Except Error RuleSource := do
  return ⟨source.name, ← contribution settings web files source⟩

/-- The merge of what all sources contribute, in their order. -/
def inMemory (settings : Config.Settings) (web : Web) (files : Files) : Except Error MergeResult := do
  match Merge.mergeInputs true ((← settings.sources.mapM (offer settings web files)).map .of) with
  | .error e => .error (.merge e)
  | .ok result => .ok result

/-! ## Reading one source -/

theorem regular_originOf (url : Value) : (writeRemote.originOf url).Regular := by
  cases url <;> trivial

theorem wellTyped_of_normalize {text : Text} {normalized : Provider.Normalized}
    (given : normalize source text = .ok normalized) : ∀ r ∈ normalized.rules, r.WellTyped := by
  unfold normalize at given
  dsimp only at given
  split at given
  · cases given
  · exact fun r => Provider.wellTyped_of_normalizeText given

/-- A source whose path leads somewhere is read from there. -/
theorem loadSource_ok {entry : FileEntry} (stands : w.files.Stands (pathOf settings source) entry)
    (ran : (loadSource settings source).run w = (.ok loaded, w')) :
    w' = w ∧ ∃ bundle,
      Document.loadBundle w.files (pathOf settings source) (some source.name) false = .ok bundle ∧
      loaded = ⟨source.name, bundle.rules⟩ := by
  unfold loadSource at ran
  obtain ⟨now, between, read, rest⟩ := ok_of_bind ran
  obtain ⟨rfl, rfl⟩ := eq_of_get read
  dsimp only at rest
  rw [if_pos (Files.contains_iff.mpr ⟨entry, stands⟩)] at rest
  split at rest
  · cases rest
  next bundle given =>
    cases rest
    exact ⟨rfl, bundle, given, rfl⟩

/-- What is read for a settled source is what the source contributes. -/
theorem offer_of_loadSource (settled : Settled settings web start w.files source)
    (ran : (loadSource settings source).run w = (.ok loaded, w')) :
    offer settings web start source = .ok loaded ∧ w' = w := by
  unfold offer contribution
  cases settled with
  | written remote fetched given holds =>
    obtain ⟨same, bundle, read, rfl⟩ := loadSource_ok holds.stands ran
    have typed := wellTyped_of_normalize given
    have rules := Document.rules_of_loadBundle holds (Bundle.regular_make typed (regular_originOf source.url)) read
    refine ⟨?_, same⟩
    rw [rules]
    simp [remote, fetched, given, bind, Except.bind, pure, Except.pure, bundleOf, Bundle.make]
  | kept byHand before stands =>
    obtain ⟨same, bundle, read, rfl⟩ := loadSource_ok stands ran
    rw [Document.loadBundle_congr stands before] at read
    have there := Files.contains_iff.mpr ⟨_, before⟩
    exact ⟨by simp [byHand, there, read, bind, Except.bind, pure, Except.pure], same⟩
  | created byHand absent holds =>
    obtain ⟨same, bundle, read, rfl⟩ := loadSource_ok holds.stands ran
    have rules := Document.rules_of_loadBundle holds (Bundle.regular_make (by simp) trivial) read
    refine ⟨?_, same⟩
    rw [rules]
    simp [byHand, absent, bind, Except.bind, pure, Except.pure, bundleOf, Bundle.make]
  | blocked byHand stands =>
    obtain ⟨-, bundle, read, -⟩ := loadSource_ok stands ran
    rw [Document.loadBundle_of_directory stands] at read
    cases read

/-! ## The whole build -/

theorem offers_of_loadAll {given : List RuleSource}
    (settled : ∀ s ∈ sources, Settled settings web start w.files s)
    (ran : (loadAll settings sources).run w = (.ok given, w')) :
    sources.mapM (offer settings web start) = .ok given ∧ w' = w := by
  induction sources generalizing given with
  | nil =>
    cases ran
    exact ⟨rfl, rfl⟩
  | cons first sources ih =>
    unfold loadAll at ran
    obtain ⟨loaded, between, one, rest⟩ := ok_of_bind ran
    obtain ⟨own, rfl⟩ := offer_of_loadSource (settled first (by simp)) one
    obtain ⟨others, last, loads, ends⟩ := ok_of_bind rest
    cases ends
    obtain ⟨read, rfl⟩ := ih (fun s member => settled s (by simp [member])) loads
    refine ⟨?_, rfl⟩
    rw [List.mapM_cons, own, read]
    rfl

theorem ok_of_discard {α : Type} {x : Action α} {u : PUnit} (ran : (discard x).run w = (.ok u, w')) :
    ∃ a, x.run w = (.ok a, w') := by
  have same : discard x = x >>= fun _ => pure ⟨⟩ := rfl
  rw [same] at ran
  obtain ⟨a, between, first, rest⟩ := ok_of_bind ran
  cases rest
  exact ⟨a, first⟩

/-- A build that succeeds gives the merge of what the sources contribute. -/
theorem inMemory_of_build {value : Value} {result : MergeResult}
    (listed : Config.Source.listOf value = .ok settings.sources)
    (places : (placesOf settings settings.sources).Nodup)
    (reaches : ∀ s ∈ settings.sources, s.isRemote = false → w.files.Reaches (pathOf settings s))
    (ran : (build settings web).run w = (.ok result, w')) :
    inMemory settings web w.files = .ok result := by
  unfold build at ran
  obtain ⟨_, downloaded, first, merging⟩ := ok_of_bind ran
  obtain ⟨report, download⟩ := ok_of_discard first
  obtain ⟨settled, -⟩ := settled_of_download (Config.Source.nodup_of_listOf listed) places reaches download
  unfold merge at merging
  obtain ⟨given, between, loading, merged⟩ := ok_of_bind merging
  obtain ⟨offers, rfl⟩ := offers_of_loadAll settled loading
  have whole : Merge.mergeInputs true (given.map .of) = .ok result := by
    split at merged
    · cases merged
    next kept inputs =>
      obtain ⟨_, saved, _, last⟩ := ok_of_bind merged
      cases last
      exact inputs
  unfold inMemory
  rw [offers]
  simp [whole, bind, Except.bind]

/-! ## Samples -/

/-- Settings with sources in a directory of their own. -/
def sampleSettings (sources : List Config.Source) : Config.Settings :=
  { (default : Config.Settings) with
    bundleOutput := .ofText (Text.of "out.json")
    sourcesDirectory := .ofText (Text.of "sources")
    sources }

/-- A source that is maintained by hand, and its entry. -/
def handSource (name file : Text) : Config.Source := ⟨name, file, none, .null, []⟩

def handEntry (name file : Text) : Value :=
  .mapping [(.text (Text.of "name"), .text name), (.text (Text.of "file"), .text file)]

/-- The file `x.json`, which holds one rule. -/
def sampleFiles : Files :=
  (Document.saveBundle .empty (.ofText (Text.of "sources/x.json"))
    (.make [] [] [Rule.letterRule 0x61 0x62] .null)).2

theorem sound_sampleFiles : sampleFiles.Sound := by
  have saved : (Document.saveBundle .empty (.ofText (Text.of "sources/x.json"))
      (.make [] [] [Rule.letterRule 0x61 0x62] .null)).1 = none := by decide +kernel
  exact (Document.saveBundle_ok (Prod.ext saved rfl)).2.sound Files.sound_empty

def mixedRemote : Config.Source :=
  ⟨Text.of "w", Text.of "w.json", some (Text.of "clearurls"), .text (Text.of "http://u/"), []⟩

def mixedWeb : Web :=
  Web.ofRoutes [(Text.of "http://u/", .response ⟨200,
    Text.of "\x7b\"providers\":\x7b\"p\":\x7b\"urlPattern\":\"a\",\"rules\":[\"b\"]\x7d\x7d\x7d", none⟩)]

def mixedSettings : Config.Settings := sampleSettings
  [mixedRemote, handSource (Text.of "a") (Text.of "x.json"), handSource (Text.of "b") (Text.of "d/y.json")]

def mixedResult : MergeResult where
  rules :=
    [{ id := Text.of "clearurls-p-params-0"
       pattern := [0x61]
       substitution := none
       removeParams := [[0x62]]
       enabled := true
       source := some (Text.of "w")
       examples := [] },
      { Rule.letterRule 0x61 0x62 with source := some (Text.of "a") }]
  duplicates := [(Text.of "w", 0), (Text.of "a", 0), (Text.of "b", 0)]
  skipped := []
  counts := [(Text.of "w", 1), (Text.of "a", 1), (Text.of "b", 0)]

theorem straight_mixedSettings : ∀ s ∈ mixedSettings.sources, Files.Straight (pathOf mixedSettings s) := by
  intro s member
  simp only [mixedSettings, sampleSettings, List.mem_cons, List.not_mem_nil, or_false] at member
  rcases member with rfl | rfl | rfl
  all_goals exact ⟨[], _, rfl, by simp, by decide⟩

/-- One source of each kind: a remote one, one that has a file and one that has none. -/
theorem inMemory_of_build_mixed :
    (∃ w, (build mixedSettings mixedWeb).run ⟨sampleFiles, []⟩ = (.ok mixedResult, w)) ∧
      inMemory mixedSettings mixedWeb sampleFiles = .ok mixedResult := by
  have listed : Config.Source.listOf (.list
      [.mapping [(.text (Text.of "name"), .text (Text.of "w")),
        (.text (Text.of "file"), .text (Text.of "w.json")),
        (.text (Text.of "provider"), .text (Text.of "clearurls")),
        (.text (Text.of "url"), .text (Text.of "http://u/"))],
        handEntry (Text.of "a") (Text.of "x.json"), handEntry (Text.of "b") (Text.of "d/y.json")]) =
      .ok mixedSettings.sources := by rfl
  have built : ((build mixedSettings mixedWeb).run ⟨sampleFiles, []⟩).1 = .ok mixedResult := by
    decide +kernel
  have ran := Prod.fst_eq_iff.mp built
  have reaches : ∀ s ∈ mixedSettings.sources, s.isRemote = false →
      sampleFiles.Reaches (pathOf mixedSettings s) :=
    fun s member _ => Files.reaches_of_straight sound_sampleFiles (straight_mixedSettings s member)
  have merged := inMemory_of_build listed (by decide) reaches ran
  exact ⟨⟨_, ran⟩, merged⟩

/-! ## Paths and places -/

/-- Two sources whose paths lead to one place, by another way. -/
def sharedPlace : Config.Settings := sampleSettings
  [handSource (Text.of "a") (Text.of "x.json"), handSource (Text.of "b") (Text.of "sub/../x.json")]

/-- A source whose path goes up from a directory that only the source before it makes. -/
def lateDirectory : Config.Settings := sampleSettings
  [handSource (Text.of "b") (Text.of "sub/y.json"), handSource (Text.of "a") (Text.of "sub/../x.json")]

/-- That the paths of the files are distinct is not enough, since two paths can lead to one place: the
second file written there replaces the first. Nor is it enough that their places are, since a path can come
to lead somewhere only after a directory has been made. -/
theorem inMemory_limits :
    (¬∀ (settings : Config.Settings) (web : Web) (value : Value) (w w' : Workspace) (result : MergeResult),
      Config.Source.listOf value = .ok settings.sources →
      (settings.sources.map (pathOf settings)).Nodup →
      settings.bundleOutput ∉ settings.sources.map (pathOf settings) →
      (build settings web).run w = (.ok result, w') →
      inMemory settings web w.files = .ok result) ∧
    ¬∀ (settings : Config.Settings) (web : Web) (value : Value) (w w' : Workspace) (result : MergeResult),
      Config.Source.listOf value = .ok settings.sources →
      (settings.bundleOutput.place :: placesOf settings settings.sources).Nodup →
      (build settings web).run w = (.ok result, w') →
      inMemory settings web w.files = .ok result := by
  constructor
  · intro claimed
    have listed : Config.Source.listOf (.list [handEntry (Text.of "a") (Text.of "x.json"),
        handEntry (Text.of "b") (Text.of "sub/../x.json")]) = .ok sharedPlace.sources := by rfl
    have built : ((build sharedPlace (Web.ofRoutes [])).run ⟨sampleFiles, []⟩).1 =
        .ok (Merge.merge true [⟨Text.of "a", []⟩, ⟨Text.of "b", []⟩]) := by decide +kernel
    have wrong := claimed sharedPlace _ _ _ _ _ listed (by decide) (by decide) (Prod.fst_eq_iff.mp built)
    have other : inMemory sharedPlace (Web.ofRoutes []) sampleFiles =
        .ok (Merge.merge true [⟨Text.of "a", [Rule.letterRule 0x61 0x62]⟩, ⟨Text.of "b", []⟩]) := by
      decide +kernel
    exact absurd (Except.ok.inj (other.symm.trans wrong)) (by decide +kernel)
  · intro claimed
    have listed : Config.Source.listOf (.list [handEntry (Text.of "b") (Text.of "sub/y.json"),
        handEntry (Text.of "a") (Text.of "sub/../x.json")]) = .ok lateDirectory.sources := by rfl
    have built : ((build lateDirectory (Web.ofRoutes [])).run ⟨sampleFiles, []⟩).1 =
        .ok (Merge.merge true [⟨Text.of "b", []⟩, ⟨Text.of "a", [Rule.letterRule 0x61 0x62]⟩]) := by
      decide +kernel
    have wrong := claimed lateDirectory _ _ _ _ _ listed (by decide) (Prod.fst_eq_iff.mp built)
    have other : inMemory lateDirectory (Web.ofRoutes []) sampleFiles =
        .ok (Merge.merge true [⟨Text.of "b", []⟩, ⟨Text.of "a", []⟩]) := by decide +kernel
    exact absurd (Except.ok.inj (other.symm.trans wrong)) (by decide +kernel)

end UrlRules.Pipeline
