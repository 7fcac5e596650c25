import UrlRules.Proofs.Config.Sources
import UrlRules.Proofs.Pipeline.Merging
import UrlRules.Proofs.Provider.Texts

/-!
# Repeated ids in the file of a source

The file that a download writes for a remote source is always loaded where ids may be repeated. Where they may not
it is loaded exactly if the ids of the document's rules are distinct, and exactly then a merge of it alone drops no
rule. By its labels a document says when that is so (`download_repeats`).
-/
namespace UrlRules

open Text

/-! ## Merging and reading one list of rules -/

namespace Merge

variable {name : Text} {rules : List Rule}

/-- A source is merged alone, and rules are dropped exactly if ids are repeated. -/
theorem mergeInputs_repeated (named : name ≠ []) (valid : ∀ r ∈ rules, r.Valid) :
    ∃ result, mergeInputs true [.of ⟨name, rules⟩] = .ok result ∧
      (result.totalDuplicates = 0 ↔ (rules.map (·.id)).Nodup) := by
  have right : ∀ s ∈ [RuleSource.mk name rules], s.Valid := by simpa using ⟨named, valid⟩
  have merged : mergeInputs true [.of ⟨name, rules⟩] = .ok (summary true [⟨name, rules⟩]) := by
    simpa [mergeAfter] using mergeInputs_valid true right []
  have same : ids (occurrences [⟨name, rules⟩]) = rules.map (·.id) := by
    simp [ids, occurrences, Function.comp_def]
  refine ⟨_, merged, ?_⟩
  rw [length_repeats, List.length_eq_zero_iff, repeats_eq_nil_iff, same]

end Merge

namespace Document

variable {data : Json} {rules : List Rule} {source : Option Text}

/-- A document of rules is read where ids have to be distinct exactly if they are. -/
theorem parse_list_unique_iff (typed : ∀ r ∈ rules, r.WellTyped)
    (entries : entriesOf data = .ok (rules.map Rule.toJson)) (source : Option Text) :
    (∃ read, parse data source true = .ok read) ↔ (rules.map (·.id)).Nodup := by
  constructor
  · rintro ⟨read, parsed⟩
    have distinct := (wellTyped_of_parse parsed).2 rfl
    have again : parse data source false = .ok (rules.map (·.fromSource source)) :=
      parse_list typed source (by simp) entries
    obtain rfl := Except.ok.inj ((parse_of_unique parsed).symm.trans again)
    rw [List.map_map] at distinct
    exact distinct
  · intro distinct
    exact ⟨_, parse_list typed source (fun _ => distinct) entries⟩

end Document

/-! ## The file of a source -/

namespace Config

/-- A source whose texts are of code points. -/
structure Source.Bounded (source : Source) : Prop where
  name : source.name.Bounded
  description : source.description.Bounded
  url : ∀ s, source.url = .text s → s.Bounded

end Config

namespace Pipeline

variable {settings : Config.Settings} {web : Web} {source : Config.Source} {provider : Provider} {data : Json}
  {normalized : Provider.Normalized} {report : Report} {w w' : Workspace}

/-- A remote source among the settings, whose file is no other source's, and the document that its provider has at
its URL. All texts are of code points. -/
structure Publishes (settings : Config.Settings) (web : Web) (source : Config.Source) (provider : Provider)
    (data : Json) : Prop where
  listed : ∃ value, Config.Source.listOf value = .ok settings.sources
  member : source ∈ settings.sources
  remote : source.isRemote = true
  apart : ∀ s ∈ settings.sources, (pathOf settings s).place = (pathOf settings source).place → s = source
  kind : Provider.ofName? (source.provider.getD []) = some provider
  document : ∃ text, fetchSource web source = .ok text ∧ provider.parse text = .ok data
  bounded : source.Bounded
  texts : ∀ s ∈ data.texts, s.Bounded

/-- A download has written the rules of the document. -/
theorem Publishes.holds (publishes : Publishes settings web source provider data)
    (given : provider.normalizeDocument data = .ok normalized)
    (ran : (download settings web).run w = (.ok report, w')) :
    w'.files.Holds (pathOf settings source)
      (bundleOf source normalized.rules (writeRemote.originOf source.url)) := by
  obtain ⟨value, listed⟩ := publishes.listed
  obtain ⟨text, fetched, parsed⟩ := publishes.document
  obtain ⟨text', normalized', fetched', given', holds⟩ :=
    holds_of_download (Config.Source.nodup_of_listOf listed) publishes.member publishes.remote publishes.apart ran
  obtain rfl := Except.ok.inj (fetched'.symm.trans fetched)
  have same : normalize source text' = .ok normalized := by
    simp only [normalize, publishes.kind, Provider.normalizeText, parsed]
    exact given
  obtain rfl := Except.ok.inj (given'.symm.trans same)
  exact holds

/-- The file is read as the bundle that was written. -/
theorem Publishes.read (publishes : Publishes settings web source provider data)
    (given : provider.normalizeDocument data = .ok normalized)
    (ran : (download settings web).run w = (.ok report, w')) :
    Document.readJson w'.files (pathOf settings source) =
      .ok (bundleOf source normalized.rules (writeRemote.originOf source.url)).toJson := by
  have bounded := publishes.bounded
  have rules : (Text.of " rules").Bounded := by decide
  have located : ∀ s ∈ (writeRemote.originOf source.url).texts, s.Bounded := by
    intro s member
    unfold writeRemote.originOf at member
    split at member
    next url given => exact List.mem_singleton.mp member ▸ bounded.url url given
    next => cases member
  have written := Provider.written_of_normalizeDocument publishes.texts given
  exact Document.readJson_of_holds (publishes.holds given ran)
    (Bundle.regular_make (fun r member => (written r member).typed) (regular_originOf source.url))
    (Bundle.bounded_make (bounded.name.append rules) bounded.description located written)

/-- The ids of a document's rules are distinct exactly if no two of its entries with one label share an id. Exactly
then the file that a download has written for the document is loaded where ids may not be repeated, and a merge of it
alone drops no rule. Where they may be repeated it is always loaded. -/
theorem download_repeats (provider : Provider) (data : Json) (normalized : Provider.Normalized)
    (given : provider.normalizeDocument data = .ok normalized) :
    ((normalized.rules.map (·.id)).Nodup ↔
      (provider.entriesOf data).Pairwise fun entry other =>
        provider.label entry = provider.label other → (provider.idsOf entry).Disjoint (provider.idsOf other)) ∧
    ∀ (settings : Config.Settings) (web : Web) (source : Config.Source) (report : Report) (w w' : Workspace),
      Publishes settings web source provider data → (download settings web).run w = (.ok report, w') →
      ∀ origin : Option Text,
        ((∃ bundle, Document.loadBundle w'.files (pathOf settings source) origin true = .ok bundle) ↔
          (normalized.rules.map (·.id)).Nodup) ∧
        ∃ bundle, Document.loadBundle w'.files (pathOf settings source) origin false = .ok bundle ∧
          bundle.rules = normalized.rules.map (·.fromSource origin) ∧
          ∀ name ≠ [], ∃ result, Merge.mergeInputs true [.of ⟨name, bundle.rules⟩] = .ok result ∧
            (result.totalDuplicates = 0 ↔ (normalized.rules.map (·.id)).Nodup) := by
  refine ⟨Provider.nodup_ids_iff given, fun settings web source report w w' publishes ran origin => ?_⟩
  have loaded := publishes.read given ran
  have written := Provider.written_of_normalizeDocument publishes.texts given
  have typed : ∀ r ∈ normalized.rules, r.WellTyped := fun r member => (written r member).typed
  have entries := Document.entriesOf_bundle (bundleOf source normalized.rules (writeRemote.originOf source.url))
  constructor
  · rw [← Document.parse_list_unique_iff typed entries origin]
    constructor
    · rintro ⟨bundle, load⟩
      obtain ⟨data', same, parsed⟩ := Document.parse_of_loadBundle load
      obtain rfl := Except.ok.inj (loaded.symm.trans same)
      exact ⟨_, parsed⟩
    · rintro ⟨rules, parsed⟩
      obtain ⟨bundle, load, -⟩ := Document.loadBundle_of_parse loaded parsed
      exact ⟨bundle, load⟩
  · have parsed : Document.parse (bundleOf source normalized.rules (writeRemote.originOf source.url)).toJson
        origin false = .ok (normalized.rules.map (·.fromSource origin)) :=
      Document.parse_list typed origin (by simp) entries
    obtain ⟨bundle, load, rules⟩ := Document.loadBundle_of_parse loaded parsed
    refine ⟨bundle, load, rules, fun name named => ?_⟩
    have valid : ∀ r ∈ bundle.rules, r.Valid := by
      rw [rules]
      exact List.forall_mem_map.mpr fun r member => (typed r member).valid.fromSource origin
    obtain ⟨result, merged, none⟩ := Merge.mergeInputs_repeated named valid
    rw [rules, List.map_map] at none
    exact ⟨result, merged, none⟩

/-- Two providers whose names are still different in their ids. -/
def pairDocument : Json := Provider.providersNamed [Text.of "p", Text.of "q"]

def pairWeb : Web :=
  Web.ofRoutes [(Text.of "http://u/", .response ⟨200, pairDocument.document, none⟩)]

def pairSettings : Config.Settings := sampleSettings [mixedRemote]

theorem publishes_pair : Publishes pairSettings pairWeb mixedRemote .clearUrls pairDocument where
  listed := ⟨.list [.mapping [(.text (Text.of "name"), .text (Text.of "w")),
      (.text (Text.of "file"), .text (Text.of "w.json")),
      (.text (Text.of "provider"), .text (Text.of "clearurls")),
      (.text (Text.of "url"), .text (Text.of "http://u/"))]], by rfl⟩
  member := List.mem_singleton_self _
  remote := rfl
  apart := fun s member _ => List.mem_singleton.mp member
  kind := by rfl
  document := by
    have regular : pairDocument.Regular := by
      simp [pairDocument, Provider.providersNamed, Json.Regular, Json.RegularFields, Json.RegularItems, Text.of]
    refine ⟨pairDocument.document, by rfl, ?_⟩
    rw [Provider.parse, Json.read_document regular]
  bounded := ⟨by decide, by decide, fun s same => by cases same; decide⟩
  texts := by decide

/-- The file of two such providers is loaded where ids may not be repeated, and a merge of it drops no rule. -/
theorem download_repeats_none :
    ∃ normalized report w, Provider.clearUrls.normalizeDocument pairDocument = .ok normalized ∧
      (normalized.rules.map (·.id)).Nodup ∧
      (download pairSettings pairWeb).run ⟨.empty, []⟩ = (.ok report, w) ∧
      (∃ bundle, Document.loadBundle w.files (pathOf pairSettings mixedRemote) none true = .ok bundle) ∧
      ∃ bundle result, Document.loadBundle w.files (pathOf pairSettings mixedRemote) none false = .ok bundle ∧
        Merge.mergeInputs true [.of ⟨mixedRemote.name, bundle.rules⟩] = .ok result ∧
        result.totalDuplicates = 0 := by
  obtain ⟨normalized, given⟩ :
      ∃ normalized, Provider.clearUrls.normalizeDocument pairDocument = .ok normalized := ⟨_, rfl⟩
  have downloaded : ((download pairSettings pairWeb).run ⟨.empty, []⟩).1 = .ok ⟨[(Text.of "w", 2)], []⟩ := by
    decide +kernel
  have ran := Prod.fst_eq_iff.mp downloaded
  obtain ⟨repeated, written⟩ := download_repeats .clearUrls pairDocument normalized given
  have distinct : (normalized.rules.map (·.id)).Nodup :=
    repeated.mpr (List.pairwise_pair.mpr fun same => absurd same (by decide +kernel))
  obtain ⟨unique, bundle, loaded, -, merges⟩ := written _ _ _ _ _ _ publishes_pair ran none
  obtain ⟨result, merged, none⟩ := merges mixedRemote.name (by decide)
  exact ⟨normalized, _, _, given, distinct, ran, unique.mpr distinct, bundle, result, loaded, merged,
    none.mpr distinct⟩

end Pipeline
end UrlRules
