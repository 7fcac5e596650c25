import UrlRules.Document.File
import UrlRules.Proofs.Document.Bundle
import UrlRules.Proofs.Files.Tree

/-!
# Bundles in files

A bundle of well-typed rules that has been saved is read back with the same rules, each from the source that
is given (`rules_of_loadBundle`), and a textual one as a whole (`loadBundle_textual`). The text of a bundle holds no
carriage return, so reading it with any line ends changes nothing. A text is written exactly if it has no lone
surrogates and the path is writable (`exists_writeText_iff`).
-/
namespace UrlRules

open Text

namespace Text

theorem withLineFeeds_of_not_mem {s : Text} (absent : carriageReturn ∉ s) : withLineFeeds s = s := by
  fun_induction withLineFeeds s with
  | case1 => rfl
  | case2 => simp at absent
  | case3 => rfl
  | case4 => simp at absent
  | case5 => simp at absent
  | case6 c d rest other ih => rw [ih fun member => absent (List.mem_cons_of_mem _ member)]

end Text

namespace Json

/-- A document is the same with any line ends. -/
theorem withLineFeeds_document {v : Json} (regular : v.Regular) :
    withLineFeeds v.document = v.document :=
  withLineFeeds_of_not_mem (not_mem_document regular)

end Json

/-! ## Saving and loading -/

/-- A file holds a bundle. -/
structure Files.Holds (files : Files) (path : Path) (bundle : Bundle) : Prop where
  scalar : isScalar bundle.text = true
  stands : files.Stands path (.file (Utf8.encode bundle.text))

namespace Document

variable {files files' : Files} {path : Path} {bundle read : Bundle} {source : Option Text}

/-- Whether a text is written or not, nothing is changed elsewhere than at its file. -/
theorem changes_writeText (files : Files) (path : Path) (text : Text) :
    Files.Changes [path.place] files (writeText files path text).2 := by
  unfold writeText
  cases parent : files.makeParent path with
  | error e => exact (Files.Changes.refl files).mono (by simp)
  | ok made =>
    have directories := Files.makeDirectories_ok parent
    cases wrote : made.write path [] with
    | error e => simpa [wrote] using directories.mono (by simp)
    | ok emptied =>
      cases encoded : Utf8.encode? text with
      | none => simpa [wrote, encoded] using directories.trans (Files.write_ok wrote).1
      | some octets =>
        obtain ⟨full, again⟩ := Files.exists_write wrote octets
        simpa [wrote, encoded, again, Except.toOption] using directories.trans (Files.write_ok again).1

/-- A text is written in two steps: first the directories are made, and then the file. -/
theorem steps_of_writeText {text : Text} (written : writeText files path text = (none, files')) :
    isScalar text = true ∧
      ∃ made, files.makeParent path = .ok made ∧ made.write path (Utf8.encode text) = .ok files' := by
  unfold writeText at written
  split at written
  · cases written
  next made parent =>
    split at written
    · cases written
    next emptied wrote =>
      split at written
      · cases written
      next octets encoded =>
        obtain ⟨scalar, rfl⟩ : isScalar text = true ∧ Utf8.encode text = octets := by
          simpa [Utf8.encode?] using encoded
        obtain ⟨full, again⟩ := Files.exists_write wrote (Utf8.encode text)
        obtain rfl : full = files' := by
          rw [again] at written
          exact (Prod.mk.inj written).2
        exact ⟨scalar, made, parent, again⟩

/-- A text that has been written stands in its file, and only there something has changed. -/
theorem writeText_ok {text : Text} (written : writeText files path text = (none, files')) :
    isScalar text = true ∧ files'.Stands path (.file (Utf8.encode text)) ∧
      Files.Changes [path.place] files files' := by
  obtain ⟨scalar, made, parent, wrote⟩ := steps_of_writeText written
  obtain ⟨changes, stands⟩ := Files.write_ok wrote
  exact ⟨scalar, stands, (Files.makeDirectories_ok parent).trans changes⟩

/-- A text of scalar values is written wherever a file can be. -/
theorem exists_writeText_iff {text : Text} :
    (∃ files', writeText files path text = (none, files')) ↔ isScalar text = true ∧ files.Writable path := by
  constructor
  · rintro ⟨files', written⟩
    obtain ⟨scalar, made, parent, wrote⟩ := steps_of_writeText written
    exact ⟨scalar, (Files.writable_of_write parent wrote).1⟩
  · rintro ⟨scalar, writable⟩
    obtain ⟨made, emptied, parent, wrote⟩ := writable.exists_write []
    obtain ⟨full, again⟩ := Files.exists_write wrote (Utf8.encode text)
    exact ⟨full, by simp [writeText, parent, wrote, Utf8.encode?, scalar, again, Except.toOption]⟩

/-- A bundle that has been saved is held by its file, and only there something has changed. -/
theorem saveBundle_ok (saved : saveBundle files path bundle = (none, files')) :
    files'.Holds path bundle ∧ Files.Changes [path.place] files files' := by
  obtain ⟨scalar, stands, changes⟩ := writeText_ok saved
  exact ⟨⟨scalar, stands⟩, changes⟩

/-- Where a bundle has been saved a bundle can be saved again. -/
theorem writable_of_saveBundle (saved : saveBundle files path bundle = (none, files')) : files'.Writable path := by
  obtain ⟨-, made, parent, wrote⟩ := steps_of_writeText saved
  exact (Files.writable_of_write parent wrote).2

theorem exists_saveBundle (scalar : isScalar bundle.text = true) (writable : files.Writable path) :
    ∃ saved, saveBundle files path bundle = (none, saved) ∧ saved.Holds path bundle := by
  obtain ⟨saved, written⟩ := exists_writeText_iff.mpr ⟨scalar, writable⟩
  exact ⟨saved, written, (saveBundle_ok written).1⟩

/-- A value is read from the file that its document stands in. -/
theorem readJson_document {v : Json} (regular : v.Regular) (bounded : ∀ s ∈ v.texts, s.Bounded)
    (scalar : isScalar v.document = true) (stands : files.Stands path (.file (Utf8.encode v.document))) :
    readJson files path = .ok v := by
  have within : v.document.Bounded := by
    refine Json.forall_document regular (fun c small => ?_) bounded
    exact Nat.le_of_lt (Nat.lt_of_lt_of_le small (by decide))
  have decoded := Utf8.decode?_encode (within.unicode scalar)
  simp only [readJson, readText, Files.read_of_stands stands, decoded, Json.withLineFeeds_document regular, bind,
    Except.bind, Json.read_document regular]

/-- What is read depends on nothing but the octets. -/
theorem readJson_congr {path' : Path} {data : Json} (same : files'.read path' = files.read path)
    (loaded : readJson files path = .ok data) : readJson files' path' = .ok data := by
  unfold readJson readText at loaded ⊢
  rw [same]
  cases octets : files.read path with
  | error e => simp [octets, bind, Except.bind] at loaded
  | ok octets' =>
    simp only [octets] at loaded ⊢
    cases decoded : Utf8.decode? octets' with
    | none => simp [decoded, bind, Except.bind] at loaded
    | some s =>
      simp only [decoded, bind, Except.bind] at loaded ⊢
      cases read : Json.read (withLineFeeds s) with
      | ok value => simpa [read] using loaded
      | error e => cases e <;> simp [read] at loaded

/-! ## The texts in a file -/

theorem mem_withLineFeeds {s : Text} {c : CodePoint} (member : c ∈ withLineFeeds s) : c = lineFeed ∨ c ∈ s := by
  fun_induction withLineFeeds s <;> grind

theorem texts_entriesOf {data : Json} {entries : List Json} (listed : entriesOf data = .ok entries) :
    Json.textsOfItems entries ⊆ data.texts := by
  unfold entriesOf at listed
  split at listed
  next fields =>
    split at listed
    · cases listed
    next found =>
      obtain rfl := Except.ok.inj listed
      exact Json.texts_field? found
    · cases listed
  next =>
    obtain rfl := Except.ok.inj listed
    exact List.Subset.refl _
  next => cases listed

/-- All texts of the rules of a document stand in it. -/
theorem texts_of_parse {data : Json} {rules : List Rule} {unique : Bool}
    (read : parse data source unique = .ok rules) : ∀ r ∈ rules, r.texts ⊆ data.texts := by
  intro r member
  obtain ⟨entries, listed, origin, -⟩ := ofJson_of_parse read
  obtain ⟨entry, inside, made⟩ := origin r member
  exact fun s own => texts_entriesOf listed (Json.mem_textsOfItems.mpr ⟨entry, inside, Rule.texts_ofJson made own⟩)

/-- The texts of a value in a file are joined. -/
theorem joined_of_readJson {data : Json} (loaded : readJson files path = .ok data) : Json.AllJoined data.texts := by
  unfold readJson readText at loaded
  obtain ⟨s, text, loaded⟩ := bind_eq_ok.mp loaded
  split at text
  · cases text
  · split at text
    · cases text
    next decoded =>
      obtain rfl := Except.ok.inj text
      have unicode := Utf8.unicode_of_decode? decoded
      split at loaded
      next read =>
        obtain rfl := Except.ok.inj loaded
        refine Json.joined_of_read read fun c member => ?_
        rcases mem_withLineFeeds member with rfl | inside
        · decide
        · exact unicode c inside
      next => cases loaded
      next => cases loaded

/-! ## Exported rules -/

/-- The texts of the document that holds rules are those of the rules and names of fields. -/
theorem forall_ofRules {P : Text → Prop} {rules : List Rule}
    (names : ∀ s ∈ Text.of "rules" :: (Rule.fieldNames ++ Rule.exampleNames), P s)
    (each : ∀ r ∈ rules, ∀ s ∈ r.texts, P s) : ∀ s ∈ (ofRules rules).texts, P s := by
  obtain ⟨name, names⟩ := List.forall_mem_cons.mp names
  intro s member
  obtain ⟨field, inside, named | value⟩ := Json.mem_textsOfFields.mp member
  · rw [List.mem_singleton.mp inside] at named
    exact named ▸ name
  · rw [List.mem_singleton.mp inside] at value
    exact Rule.forall_rules names each s value

theorem regular_ofRules {rules : List Rule} (typed : ∀ r ∈ rules, r.WellTyped) : (ofRules rules).Regular :=
  ⟨by simp, Json.regular_map fun r inside => Rule.regular_toJson (typed r inside), trivial⟩

/-- The text that holds rules has a UTF-8 form if their texts have. -/
theorem isScalar_textOfRules {rules : List Rule} (typed : ∀ r ∈ rules, r.WellTyped)
    (unicode : ∀ r ∈ rules, ∀ s ∈ r.texts, s.IsUnicode) : isScalar (textOfRules rules) = true := by
  have whole : (textOfRules rules).IsUnicode := by
    refine Json.forall_document (regular_ofRules typed) (fun c ascii => ?_)
      (forall_ofRules (P := IsUnicode) (by decide) unicode)
    exact isScalarValue_of_apart (.inl (Nat.lt_trans ascii (by decide)))
  exact whole.isScalar

/-- Rules that were exported are read from their file. -/
theorem readJson_ofRules {rules : List Rule} (written : ∀ r ∈ rules, r.Written)
    (scalar : isScalar (textOfRules rules) = true)
    (stands : files.Stands path (.file (Utf8.encode (textOfRules rules)))) :
    readJson files path = .ok (ofRules rules) :=
  readJson_document (regular_ofRules fun r inside => (written r inside).typed)
    (forall_ofRules (by decide) fun r inside => (written r inside).bounded) scalar stands

/-! ## Bundles in files -/

/-- A file is loaded as the rules that are read from it. -/
theorem loadBundle_of_parse {data : Json} {rules : List Rule} {unique : Bool}
    (loaded : readJson files path = .ok data) (read : parse data source unique = .ok rules) :
    ∃ bundle, loadBundle files path source unique = .ok bundle ∧ bundle.rules = rules := by
  simp [loadBundle, loaded, Bundle.ofJson, read]

theorem parse_of_loadBundle {unique : Bool} (loaded : loadBundle files path source unique = .ok bundle) :
    ∃ data, readJson files path = .ok data ∧ parse data source unique = .ok bundle.rules := by
  unfold loadBundle at loaded
  cases given : readJson files path with
  | error e => simp [given] at loaded
  | ok data =>
    cases read : parse data source unique with
    | error e => simp [given, Bundle.ofJson, read] at loaded
    | ok rules =>
      refine ⟨data, rfl, ?_⟩
      simp only [given, Bundle.ofJson, read] at loaded
      rw [← Except.ok.inj loaded]
      exact read

/-- Rules that were read from a file are written. -/
theorem written_of_parse {data : Json} {rules : List Rule} {unique : Bool} (loaded : readJson files path = .ok data)
    (read : parse data source unique = .ok rules) : ∀ r ∈ rules, r.Written := fun r member =>
  ⟨((wellTyped_of_parse read).1 r member).1, fun s own =>
    (joined_of_readJson loaded s (texts_of_parse read r member own)).bounded⟩

/-- The rules of a bundle in a file are read back, from the source that is given. -/
theorem rules_of_loadBundle (holds : files.Holds path bundle) (regular : bundle.Regular)
    (loaded : loadBundle files path source false = .ok read) : read.rules = bundle.rules.map (·.fromSource source) := by
  obtain ⟨data, given, parsed⟩ := parse_of_loadBundle loaded
  unfold readJson readText at given
  simp only [Files.read_of_stands holds.stands, bind, Except.bind] at given
  cases decoded : Utf8.decode? (Utf8.encode bundle.text) with
  | none => simp [decoded] at given
  | some text =>
    obtain rfl := Utf8.eq_of_decode?_encode holds.scalar decoded
    have whole : Json.read (withLineFeeds bundle.text) = .ok bundle.toJson := by
      rw [Bundle.text, Json.withLineFeeds_document (Bundle.regular_toJson regular)]
      exact Json.read_document (Bundle.regular_toJson regular)
    obtain rfl : bundle.toJson = data := by simpa [decoded, whole] using given
    have again : parse bundle.toJson source false = .ok (bundle.rules.map (·.fromSource source)) :=
      parse_list regular.rules source (by simp) (entriesOf_bundle bundle)
    exact Except.ok.inj (parsed.symm.trans again)

/-- A bundle is read from the file that holds it. -/
theorem readJson_of_holds (holds : files.Holds path bundle) (regular : bundle.Regular)
    (bounded : ∀ s ∈ bundle.texts, s.Bounded) : readJson files path = .ok bundle.toJson :=
  readJson_document (Bundle.regular_toJson regular) (Bundle.bounded_toJson bounded) holds.scalar holds.stands

/-- A textual bundle is loaded from the file that holds it, with its rules from the source that is given. -/
theorem loadBundle_textual (holds : files.Holds path bundle) (textual : bundle.Textual) (source : Option Text)
    {unique : Bool} (distinct : unique → (bundle.rules.map (·.id)).Nodup) :
    loadBundle files path source unique = .ok (bundle.fromSource source) := by
  have loaded := readJson_of_holds holds textual.regular fun s member => (textual.unicode s member).bounded
  simp only [loadBundle, loaded, textual.ofJson_toJson path.stem source distinct]

/-- What a file gives depends on nothing but what stands where its path leads. -/
theorem loadBundle_congr {entry : FileEntry} (stands : files.Stands path entry)
    (stands' : files'.Stands path entry) (source : Option Text) (unique : Bool) :
    loadBundle files path source unique = loadBundle files' path source unique := by
  have same : files.read path = files'.read path := by
    cases entry with
    | file octets => rw [Files.read_of_stands stands, Files.read_of_stands stands']
    | directory => rw [Files.read_of_directory stands, Files.read_of_directory stands']
  unfold loadBundle readJson readText
  rw [same]

theorem loadBundle_of_directory (stands : files.Stands path .directory) (source : Option Text)
    (unique : Bool) : loadBundle files path source unique =
      .error (.file (.unreadable ⟨.isDirectory, path⟩ path)) := by
  unfold loadBundle readJson readText
  rw [Files.read_of_directory stands]
  rfl

/-! ## Round trips -/

/-- A textual bundle is saved wherever a file can be written. It is loaded from there as it was, with its rules from
the source that is given; where ids may not be repeated, as long as none is. The bundle that was loaded is saved with
the same octets wherever a file can be written, and that is so where it was loaded from. -/
theorem loadBundle_saveBundle (textual : bundle.Textual) (writable : files.Writable path) :
    ∃ saved, saveBundle files path bundle = (none, saved) ∧ saved.read path = .ok (Utf8.encode bundle.text) ∧
      saved.Writable path ∧
      ∀ (source : Option Text) (unique : Bool), (unique = true → (bundle.rules.map (·.id)).Nodup) →
        loadBundle saved path source unique = .ok (bundle.fromSource source) ∧
        ∀ (other : Files) (path' : Path), other.Writable path' →
          ∃ again, saveBundle other path' (bundle.fromSource source) = (none, again) ∧
            again.read path' = .ok (Utf8.encode bundle.text) := by
  have scalar := textual.unicode_text.isScalar
  obtain ⟨saved, done, holds⟩ := exists_saveBundle scalar writable
  refine ⟨saved, done, Files.read_of_stands holds.stands, writable_of_saveBundle done, fun source unique distinct => ?_⟩
  refine ⟨loadBundle_textual holds textual source distinct, fun other path' writable' => ?_⟩
  have same := bundle.text_fromSource source
  obtain ⟨again, done', holds'⟩ := exists_saveBundle (same ▸ scalar) writable'
  exact ⟨again, done', by rw [Files.read_of_stands holds'.stands, same]⟩

/-- Two rules of one id, one of them from somewhere, are saved in a directory that is not there yet. -/
theorem loadBundle_saveBundle_letters :
    let letter := Rule.letterRule 0x61 0x62
    let bundle : Bundle :=
      Bundle.make (Text.of "é") [] [letter.fromSource (some (Text.of "x")), letter] (.text (Text.of "http://u/"))
    let path := Path.ofText (Text.of "out/a.json")
    ∃ saved, saveBundle .empty path bundle = (none, saved) ∧
      loadBundle saved path none false = .ok { bundle with rules := [letter, letter] } ∧
      ∃ again, saveBundle saved path { bundle with rules := [letter, letter] } = (none, again) ∧
        again.read path = saved.read path := by
  intro letter bundle path
  have typed : letter.WellTyped := ⟨Rule.valid_letterRule ⟨_, by cbv⟩, by simp [letter, Rule.letterRule]⟩
  have textual : bundle.Textual := {
    schema := ⟨_, rfl⟩
    name := ⟨_, rfl⟩
    description := ⟨_, rfl⟩
    source := .inr ⟨_, by decide, rfl⟩
    rules := by simpa [bundle, Bundle.make] using ⟨typed.fromSource _, typed⟩
    unicode := by decide }
  have directory : Files.empty.makeParent path = .ok (Files.empty.put [Text.of "out"] .directory) := by decide +kernel
  have writable : Files.empty.Writable path := by
    refine ⟨_, directory, fun there => ?_⟩
    have absent := Files.isDirectory_iff.mpr there
    revert absent
    decide +kernel
  obtain ⟨saved, done, octets, writable', loads⟩ := loadBundle_saveBundle textual writable
  obtain ⟨loaded, saves⟩ := loads none false (by simp)
  obtain ⟨again, done', octets'⟩ := saves saved path writable'
  exact ⟨saved, done, loaded, again, done', octets'.trans octets.symm⟩

end Document
end UrlRules
