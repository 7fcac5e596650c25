import Mathlib.Data.List.Induction
import UrlRules.Files.Tree
import UrlRules.Proofs.Results

/-!
# Files after a write

A path leads to a place that its names alone give (`place`). Writing a file changes that one place, and making
the directories on the way only makes directories where nothing was (`Changes`). In a tree where everything
stands in a directory (`Sound`), a path that never goes up again after a name finds whatever stands at its
place (`reaches_of_straight`).
-/
namespace UrlRules

open Text

namespace Files

variable {files files' : Files} {path : Path} {place other : Place} {entry : FileEntry}

/-! ## Places -/

/-- The working directory, those above it and the root are always there. -/
def Top (place : Place) : Prop := place.all (· == up) ∨ place = [[Path.slash]]

/-- One name further on. -/
def descend (place : Place) (name : Text) : Place :=
  if name = up then above place else place ++ [name]

/-- Where a path starts. -/
def startOf (path : Path) : Place := if path.isAbsolute then [[Path.slash]] else []

theorem top_startOf (path : Path) : Top (startOf path) := by
  unfold startOf
  split
  · exact .inr rfl
  · exact .inl rfl

theorem at?_top (top : Top place) : files.at? place = some .directory := if_pos top

theorem at?_of_not_top (inside : ¬Top place) :
    files.at? place = (files.entries.find? (·.1 == place)).map (·.2) := if_neg inside

theorem above_top (top : Top place) : Top (above place) := by
  unfold above
  split
  next ups =>
    refine .inl ?_
    simp [ups]
  next =>
    rcases top with ups | root
    · contradiction
    · rw [if_pos root]
      exact .inr root

theorem above_of_not_top (inside : ¬Top place) : above place = place.dropLast := by
  have parts := not_or.mp inside
  unfold above
  rw [if_neg parts.1, if_neg parts.2]

end Files

/-- The place that a path leads to, by its names alone. -/
def Path.place (path : Path) : Place := path.names.foldl Files.descend (Files.startOf path)

namespace Files

variable {files files' : Files} {path : Path} {place other : Place} {entry : FileEntry}

theorem follow_eq {names : List Text} (followed : files.follow path place names = .ok other) :
    other = names.foldl descend place := by
  induction names generalizing place with
  | nil => exact (Except.ok.inj followed).symm
  | cons name names ih =>
    simp only [follow] at followed
    split at followed
    · cases followed
    · cases followed
    · exact ih followed

theorem placeOf_eq (found : files.placeOf path = .ok place) : place = path.place := follow_eq found

/-! ## What changes -/

theorem find?_replaced (entries : List (Place × FileEntry)) (place other : Place) (entry : FileEntry) :
    ((entries.map fun (p, e) => if p = place then (p, entry) else (p, e)).find? (·.1 == other)).map (·.2) =
      (entries.find? (·.1 == other)).map fun found => if other = place then entry else found.2 := by
  induction entries with
  | nil => rfl
  | cons first entries ih =>
    obtain ⟨p, e⟩ := first
    by_cases here : p = other
    · subst here
      by_cases replaced : p = place <;> simp [replaced]
    · have first : ((if p = place then (p, entry) else (p, e)) : Place × FileEntry).1 = p := by
        split <;> rfl
      rw [List.map_cons, List.find?_cons_of_neg (by simpa [first] using here), ih]
      simp [here]

theorem at?_put (inside : ¬Top other) (files : Files) (place : Place) (entry : FileEntry) :
    (files.put place entry).at? other = if other = place then some entry else files.at? other := by
  rw [at?_of_not_top inside, at?_of_not_top inside]
  unfold put
  split
  next there =>
    rw [find?_replaced]
    by_cases same : other = place
    · subst same
      obtain ⟨found, here⟩ := Option.isSome_iff_exists.mp (List.find?_isSome.mpr (List.any_eq_true.mp there))
      simp [here]
    · simp [same]
  next new =>
    rw [List.find?_append]
    by_cases same : other = place
    · subst same
      have none : files.entries.find? (·.1 == other) = none := by
        rw [← Option.not_isSome_iff_eq_none, List.find?_isSome, ← List.any_eq_true]
        exact new
      simp [none]
    · have last : [(place, entry)].find? (·.1 == other) = none := by simp [Ne.symm same]
      rw [last, Option.or_none, if_neg same]

/-- Everything stands in a directory. -/
def Sound (files : Files) : Prop :=
  ∀ place, ¬Top place → files.at? place ≠ none → files.at? place.dropLast = some .directory

theorem sound_empty : Files.empty.Sound := by
  intro place inside there
  rw [at?_of_not_top inside] at there
  exact absurd rfl there

/-- Elsewhere than at some places nothing is changed, but that there are directories where nothing was. -/
structure Changes (places : List Place) (files files' : Files) : Prop where
  others : ∀ place ∉ places, files'.at? place = files.at? place ∨
    files.at? place = none ∧ files'.at? place = some .directory
  directories : ∀ place, files.at? place = some .directory → files'.at? place = some .directory
  sound : files.Sound → files'.Sound

theorem Changes.refl (files : Files) : Changes [] files files :=
  ⟨fun _ _ => .inl rfl, fun _ => id, id⟩

theorem Changes.mono {places places' : List Place} (changes : Changes places files files')
    (subset : places ⊆ places') : Changes places' files files' :=
  ⟨fun place apart => changes.others place (mt (@subset place) apart), changes.directories,
    changes.sound⟩

theorem Changes.trans {places places' : List Place} {files'' : Files}
    (first : Changes places files files') (second : Changes places' files' files'') :
    Changes (places ++ places') files files'' := by
  refine ⟨fun place apart => ?_, fun place => second.directories place ∘ first.directories place,
    second.sound ∘ first.sound⟩
  obtain ⟨before, after⟩ := not_or.mp (mt List.mem_append.mpr apart)
  rcases first.others place before with same | ⟨absent, made⟩
  · rw [← same]
    exact second.others place after
  · exact .inr ⟨absent, second.directories place made⟩

/-- A path that leads somewhere leads there still, as long as directories stay. -/
theorem follow_mono {names : List Text}
    (stay : ∀ place, files.at? place = some .directory → files'.at? place = some .directory)
    (followed : files.follow path place names = .ok other) :
    files'.follow path place names = .ok other := by
  induction names generalizing place with
  | nil => exact followed
  | cons name names ih =>
    simp only [follow] at followed ⊢
    split at followed
    · cases followed
    · cases followed
    next directory =>
      rw [stay _ directory]
      exact ih followed

/-- What a path leads to. -/
structure Stands (files : Files) (path : Path) (entry : FileEntry) : Prop where
  leads : files.placeOf path = .ok path.place
  here : files.at? path.place = some entry

/-- What stands elsewhere goes on standing there. -/
theorem Stands.changes {places : List Place} (stands : files.Stands path entry)
    (changes : Changes places files files') (apart : path.place ∉ places) :
    files'.Stands path entry := by
  refine ⟨follow_mono changes.directories stands.leads, ?_⟩
  rcases changes.others path.place apart with same | ⟨absent, -⟩
  · rw [same, stands.here]
  · rw [stands.here] at absent
    cases absent

theorem dropLast_of_top (top : Top place) : Top place.dropLast := by
  rcases top with ups | root
  · refine .inl (List.all_eq_true.mpr fun name member => ?_)
    exact List.all_eq_true.mp ups name (List.dropLast_subset place member)
  · exact .inl (by simp [root])

/-- In a sound tree the place of a path stands in a directory. -/
theorem directory_of_follow (sound : files.Sound) {names : List Text}
    (start : files.at? place.dropLast = some .directory)
    (followed : files.follow path place names = .ok other) :
    files.at? other.dropLast = some .directory := by
  induction names generalizing place with
  | nil =>
    obtain rfl := Except.ok.inj followed
    exact start
  | cons name names ih =>
    simp only [follow] at followed
    split at followed
    · cases followed
    · cases followed
    next here =>
      refine ih ?_ followed
      split
      · by_cases top : Top place
        · exact at?_top (dropLast_of_top (above_top top))
        · rw [above_of_not_top top]
          by_cases top' : Top place.dropLast
          · exact at?_top (dropLast_of_top top')
          · exact sound _ top' (by rw [start]; simp)
      · rw [List.dropLast_concat]
        exact here

theorem directory_of_placeOf (sound : files.Sound) (found : files.placeOf path = .ok place) :
    files.at? place.dropLast = some .directory :=
  directory_of_follow sound (at?_top (dropLast_of_top (top_startOf path))) found

/-! ## Writing -/

/-- Putting an entry where no directory is: only its place changes. -/
theorem changes_put (found : files.placeOf path = .ok place) (free : files.at? place ≠ some .directory)
    (entry : FileEntry) : Changes [place] files (files.put place entry) := by
  have others {other : Place} (apart : other ≠ place) :
      (files.put place entry).at? other = files.at? other := by
    by_cases top : Top other
    · rw [at?_top top, at?_top top]
    · rw [at?_put top, if_neg apart]
  have directories {other : Place} (directory : files.at? other = some .directory) :
      (files.put place entry).at? other = some .directory := by
    rw [others, directory]
    rintro rfl
    exact free directory
  refine ⟨fun other apart => .inl (others (by simpa using apart)), fun _ => directories, ?_⟩
  intro sound other inside there
  rw [at?_put inside] at there
  by_cases same : other = place
  · rw [same]
    exact directories (directory_of_placeOf sound found)
  · rw [if_neg same] at there
    exact directories (sound other inside there)

theorem makeDirectory_ok (made : files.makeDirectory path = .ok files') : Changes [] files files' := by
  unfold makeDirectory at made
  simp only [bind, Except.bind] at made
  split at made
  · cases made
  next place found =>
    split at made
    · cases made
    next free =>
      obtain rfl := Except.ok.inj made
      have inside : ¬Top place := fun top => by simp [at?_top top] at free
      have changes := changes_put found (by simp [free]) .directory
      refine ⟨fun other _ => ?_, changes.directories, changes.sound⟩
      by_cases same : other = place
      · subst same
        exact .inr ⟨free, by rw [at?_put inside, if_pos rfl]⟩
      · exact changes.others other (by simpa using same)

/-- Finding a directory that is there already changes nothing. -/
theorem changes_of_isDirectory {error : FileError}
    (kept : (if files.isDirectory path then .ok files else .error error) = Except.ok files') :
    Changes [] files files' := by
  split at kept
  · obtain rfl := Except.ok.inj kept
    exact .refl _
  · cases kept

theorem makeDirectories_ok {levels : Nat} (made : makeDirectories levels files path = .ok files') :
    Changes [] files files' := by
  induction levels generalizing path files' with
  | zero =>
    unfold makeDirectories at made
    split at made
    next first =>
      obtain rfl := Except.ok.inj made
      exact makeDirectory_ok first
    · cases made
    · exact changes_of_isDirectory made
  | succ levels ih =>
    unfold makeDirectories at made
    split at made
    next first =>
      obtain rfl := Except.ok.inj made
      exact makeDirectory_ok first
    · simp only [bind, Except.bind] at made
      split at made
      · cases made
      next above =>
        split at made
        next last =>
          obtain rfl := Except.ok.inj made
          exact (ih above).trans (makeDirectory_ok last)
        · exact (ih above).trans (changes_of_isDirectory made)
    · exact changes_of_isDirectory made

/-- A file that has been written stands where its path leads, and nothing else has changed. -/
theorem write_ok {octets : List Utf8.Octet} (wrote : files.write path octets = .ok files') :
    Changes [path.place] files files' ∧ files'.Stands path (.file octets) := by
  unfold write at wrote
  simp only [bind, Except.bind] at wrote
  split at wrote
  · cases wrote
  next place found =>
    obtain rfl := placeOf_eq found
    split at wrote
    · cases wrote
    next free =>
      obtain rfl := Except.ok.inj wrote
      have inside : ¬Top path.place := fun top => free (at?_top top)
      have changes := changes_put found free (.file octets)
      exact ⟨changes, follow_mono changes.directories found, by rw [at?_put inside, if_pos rfl]⟩

theorem at?_of_write {octets : List Utf8.Octet} (wrote : files.write path octets = .ok files')
    (apart : place ≠ path.place) : files'.at? place = files.at? place := by
  unfold write at wrote
  obtain ⟨target, found, wrote⟩ := bind_eq_ok.mp wrote
  obtain rfl := placeOf_eq found
  split at wrote
  · cases wrote
  · obtain rfl := Except.ok.inj wrote
    by_cases top : Top place
    · rw [at?_top top, at?_top top]
    · rw [at?_put top, if_neg apart]

/-- What stands elsewhere after a file was written stood there before. -/
theorem Stands.of_write {octets : List Utf8.Octet} {path' : Path} (stands : files'.Stands path' entry)
    (wrote : files.write path octets = .ok files') (apart : path'.place ≠ path.place) :
    files.Stands path' entry := by
  have before (place : Place) (directory : files'.at? place = some .directory) :
      files.at? place = some .directory := by
    by_cases here : place = path.place
    · rw [here, (write_ok wrote).2.here] at directory
      cases directory
    · rw [← at?_of_write wrote here, directory]
  exact ⟨follow_mono before stands.leads, by rw [← at?_of_write wrote apart, stands.here]⟩

/-- Whether a file can be written does not depend on what is written. -/
theorem exists_write {octets : List Utf8.Octet} (wrote : files.write path octets = .ok files')
    (octets' : List Utf8.Octet) : ∃ files'', files.write path octets' = .ok files'' := by
  unfold write at wrote ⊢
  simp only [bind, Except.bind] at wrote ⊢
  split at wrote
  · cases wrote
  · split at wrote
    · cases wrote
    · exact ⟨_, rfl⟩

/-! ## Reading -/

theorem find_ok_iff : files.find path = .ok entry ↔ files.Stands path entry := by
  constructor
  · intro found
    unfold find at found
    simp only [bind, Except.bind] at found
    split at found
    · cases found
    next place leads =>
      obtain rfl := placeOf_eq leads
      split at found
      next here =>
        obtain rfl := Except.ok.inj found
        exact ⟨leads, here⟩
      · cases found
  · intro stands
    simp [find, stands.leads, stands.here, bind, Except.bind]

theorem read_of_stands {octets : List Utf8.Octet} (stands : files.Stands path (.file octets)) :
    files.read path = .ok octets := by
  unfold read
  rw [find_ok_iff.mpr stands]
  rfl

theorem read_of_directory (stands : files.Stands path .directory) :
    files.read path = .error ⟨.isDirectory, path⟩ := by
  unfold read
  rw [find_ok_iff.mpr stands]
  rfl

theorem contains_iff : files.contains path = true ↔ ∃ entry, files.Stands path entry := by
  unfold contains
  simp only [← find_ok_iff]
  split <;> simp [*]

theorem isDirectory_iff : files.isDirectory path = true ↔ files.Stands path .directory := by
  rw [← find_ok_iff]
  unfold isDirectory
  split <;> simp_all

/-- A path to a directory leads to one still, as long as directories stay. -/
theorem Stands.directory {places : List Place} (stands : files.Stands path .directory)
    (changes : Changes places files files') : files'.Stands path .directory :=
  ⟨follow_mono changes.directories stands.leads, changes.directories _ stands.here⟩

theorem stands_of_makeDirectory (made : files.makeDirectory path = .ok files') :
    files'.Stands path .directory := by
  have changes := makeDirectory_ok made
  unfold makeDirectory at made
  obtain ⟨place, found, made⟩ := bind_eq_ok.mp made
  obtain rfl := placeOf_eq found
  split at made
  · cases made
  next free =>
    obtain rfl := Except.ok.inj made
    have inside : ¬Top path.place := fun top => by simp [at?_top top] at free
    exact ⟨follow_mono changes.directories found, by rw [at?_put inside, if_pos rfl]⟩

/-- The directories that were made are there. -/
theorem stands_of_makeDirectories {levels : Nat} (made : makeDirectories levels files path = .ok files') :
    files'.Stands path .directory := by
  have found {error : FileError}
      (kept : (if files.isDirectory path then .ok files else .error error) = Except.ok files') :
      files'.Stands path .directory := by
    split at kept
    next there =>
      obtain rfl := Except.ok.inj kept
      exact isDirectory_iff.mp there
    next => cases kept
  cases levels with
  | zero =>
    unfold makeDirectories at made
    split at made
    next first =>
      obtain rfl := Except.ok.inj made
      exact stands_of_makeDirectory first
    · cases made
    · exact found made
  | succ levels =>
    unfold makeDirectories at made
    split at made
    next first =>
      obtain rfl := Except.ok.inj made
      exact stands_of_makeDirectory first
    · obtain ⟨between, above, made⟩ := bind_eq_ok.mp made
      split at made
      next last =>
        obtain rfl := Except.ok.inj made
        exact stands_of_makeDirectory last
      next =>
        split at made
        next there =>
          obtain rfl := Except.ok.inj made
          exact isDirectory_iff.mp there
        next => cases made
    · exact found made

/-- Where a directory is there, none is made. -/
theorem makeDirectories_of_stands (stands : files.Stands path .directory) (levels : Nat) :
    makeDirectories levels files path = .ok files := by
  have there : files.makeDirectory path = .error ⟨.exists, path⟩ := by
    simp [makeDirectory, stands.leads, stands.here, bind, Except.bind]
  unfold makeDirectories
  simp only [there, isDirectory_iff.mpr stands, if_true]

/-! ## Writing in a directory -/

theorem follow_append {names : List Text} (followed : files.follow path place names = .ok other) (names' : List Text) :
    files.follow path place (names ++ names') = files.follow path other names' := by
  induction names generalizing place with
  | nil =>
    obtain rfl := Except.ok.inj followed
    rfl
  | cons name names ih =>
    simp only [List.cons_append, follow] at followed ⊢
    split at followed
    · cases followed
    · cases followed
    · exact ih followed

/-- What is followed does not depend on the path that is named in errors. -/
theorem follow_named {names : List Text} (followed : files.follow path place names = .ok other) (path' : Path) :
    files.follow path' place names = .ok other := by
  induction names generalizing place with
  | nil => exact followed
  | cons name names ih =>
    simp only [follow] at followed ⊢
    split at followed
    · cases followed
    · cases followed
    next directory => exact ih followed

/-- A path in a directory leads to its place. -/
theorem placeOf_of_parent (parent : files.Stands path.parent .directory) : files.placeOf path = .ok path.place := by
  have leads : files.follow path (startOf path) path.names.dropLast = .ok path.parent.place :=
    follow_named parent.leads path
  obtain ⟨place, found⟩ : ∃ place, files.placeOf path = .ok place := by
    show ∃ place, files.follow path (startOf path) path.names = .ok place
    rcases List.eq_nil_or_concat' path.names with empty | ⟨names, name, parts⟩
    · exact ⟨startOf path, by rw [empty]; rfl⟩
    · rw [parts, List.dropLast_concat] at leads
      refine ⟨descend path.parent.place name, ?_⟩
      rw [parts, follow_append leads, follow, parent.here]
      rfl
  rw [found, placeOf_eq found]

/-- A file can be written in a directory where no directory has its name. -/
theorem exists_write_of_parent (parent : files.Stands path.parent .directory)
    (free : ¬files.Stands path .directory) (octets : List Utf8.Octet) :
    ∃ files', files.write path octets = .ok files' := by
  have leads := placeOf_of_parent parent
  unfold write
  simp only [leads, bind, Except.bind]
  split
  next directory => exact absurd ⟨leads, directory⟩ free
  next => exact ⟨_, rfl⟩

/-- A file can be written at a path, once the directories on the way to it are made. -/
def Writable (files : Files) (path : Path) : Prop :=
  ∃ made, files.makeParent path = .ok made ∧ ¬made.Stands path .directory

theorem Writable.exists_write (writable : files.Writable path) (octets : List Utf8.Octet) :
    ∃ made files', files.makeParent path = .ok made ∧ made.write path octets = .ok files' := by
  obtain ⟨made, parent, free⟩ := writable
  obtain ⟨files', wrote⟩ := exists_write_of_parent (stands_of_makeDirectories parent) free octets
  exact ⟨made, files', parent, wrote⟩

/-- Where a file was written one could be, and can be again. -/
theorem writable_of_write {made : Files} {octets : List Utf8.Octet} (parent : files.makeParent path = .ok made)
    (wrote : made.write path octets = .ok files') : files.Writable path ∧ files'.Writable path := by
  obtain ⟨changes, stands⟩ := write_ok wrote
  have directory := (stands_of_makeDirectories parent).directory changes
  refine ⟨⟨made, parent, fun there => ?_⟩, files', makeDirectories_of_stands directory _, fun there => ?_⟩
  · simp [write, there.leads, there.here, bind, Except.bind] at wrote
  · cases stands.here.symm.trans there.here

/-! ## Paths that lead to their places -/

/-- A path that goes up at its start only. -/
def Straight (path : Path) : Prop :=
  ∃ ups names, path.names = ups ++ names ∧ (∀ name ∈ ups, name = up) ∧ ∀ name ∈ names, name ≠ up

/-- What stands below a place in a sound tree stands in a directory. -/
theorem directory_of_below (sound : files.Sound) {name : Text} (proper : name ≠ up)
    (there : files.at? (place ++ [name]) ≠ none) : files.at? place = some .directory := by
  by_cases top : Top (place ++ [name])
  · rcases top with ups | root
    · exact absurd (by simpa using (List.all_eq_true.mp ups) name (by simp)) proper
    · have empty : place = [] := by
        cases place with
        | nil => rfl
        | cons first place => simp at root
      exact at?_top (.inl (by simp [empty]))
  · have directory := sound _ top there
    rwa [List.dropLast_concat] at directory

theorem directory_of_append (sound : files.Sound) {names : List Text}
    (proper : ∀ name ∈ names, name ≠ up) (nonempty : names ≠ [])
    (there : files.at? (place ++ names) ≠ none) : files.at? place = some .directory := by
  induction names using List.reverseRecOn with
  | nil => exact absurd rfl nonempty
  | append_singleton names name ih =>
    rw [← List.append_assoc] at there
    have directory := directory_of_below sound (proper name (by simp)) there
    cases names with
    | nil => simpa using directory
    | cons first names =>
      exact ih (fun other member => proper other (List.mem_append_left _ member)) (by simp)
        (by simp [directory])

theorem follow_names (sound : files.Sound) {names : List Text}
    (proper : ∀ name ∈ names, name ≠ up) (there : files.at? (place ++ names) ≠ none) :
    files.follow path place names = .ok (place ++ names) := by
  induction names generalizing place with
  | nil => simp [follow]
  | cons name names ih =>
    have directory := directory_of_append sound proper (by simp) there
    have own := proper name (by simp)
    have others := @ih (place ++ [name])
      (fun other member => proper other (List.mem_cons_of_mem _ member))
      (by rwa [List.append_assoc, List.singleton_append])
    rw [List.append_assoc, List.singleton_append] at others
    simp only [follow, directory, if_neg own, others]

/-- Going up from the top stays at the top, where directories are always there. -/
theorem follow_ups {ups : List Text} (each : ∀ name ∈ ups, name = up) (top : Top place)
    (names : List Text) :
    files.follow path place (ups ++ names) = files.follow path (ups.foldl descend place) names := by
  induction ups generalizing place with
  | nil => rfl
  | cons name ups ih =>
    have own := each name (by simp)
    have above' : descend place name = above place := if_pos own
    rw [List.cons_append, follow, at?_top top, List.foldl_cons, above']
    dsimp only
    rw [if_pos own]
    exact ih (fun other member => each other (List.mem_cons_of_mem _ member)) (above_top top)

theorem foldl_descend {names : List Text} (proper : ∀ name ∈ names, name ≠ up) (place : Place) :
    names.foldl descend place = place ++ names := by
  induction names generalizing place with
  | nil => simp
  | cons name names ih =>
    have own : descend place name = place ++ [name] := if_neg (proper name (by simp))
    rw [List.foldl_cons, own, ih fun other member => proper other (List.mem_cons_of_mem _ member)]
    simp

/-- A path that finds whatever stands at its place. One that goes up from a directory which is not there
does not. -/
def Reaches (files : Files) (path : Path) : Prop :=
  files.at? path.place ≠ none → files.placeOf path = .ok path.place

theorem reaches_of_straight (sound : files.Sound) (straight : Straight path) : files.Reaches path := by
  intro there
  obtain ⟨ups, names, parts, each, proper⟩ := straight
  have place : path.place = ups.foldl descend (startOf path) ++ names := by
    rw [Path.place, parts, List.foldl_append, foldl_descend proper]
  rw [place] at there ⊢
  have start : files.placeOf path = files.follow path (startOf path) path.names := rfl
  rw [start, parts, follow_ups each (top_startOf path)]
  exact follow_names sound proper there

end Files
end UrlRules
