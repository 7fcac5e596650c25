import UrlRules.Proofs.Json.Fields
import UrlRules.Proofs.Json.Reading

/-!
# Reading back what is written

A value without numbers is `Regular` if its objects have each name once, and `Plain` if its texts are
`Joined` too. What is written on one line for a plain value denotes it (`denotes_compact`),
and so does what is written on many lines for a regular one, since there every character beyond ASCII
stands as it is (`denotes_indented`). So both are read back (`read_compact`, `read_document`).
-/
namespace UrlRules.Json

open Text

mutual

/-- A value without numbers whose texts are joined, with distinct names in its objects. -/
def Plain : Json → Prop
  | .null => True
  | .bool _ => True
  | .int _ => False
  | .float _ => False
  | .text s => s.Joined
  | .list items => PlainItems items
  | .object fields => (fields.map (·.1)).Nodup ∧ PlainFields fields

def PlainItems : List Json → Prop
  | [] => True
  | item :: items => Plain item ∧ PlainItems items

def PlainFields : List (Text × Json) → Prop
  | [] => True
  | (name, value) :: fields => name.Joined ∧ Plain value ∧ PlainFields fields

end

theorem plainItems_iff {items : List Json} : PlainItems items ↔ ∀ item ∈ items, Plain item := by
  induction items with
  | nil => simp [PlainItems]
  | cons item items ih => simp [PlainItems, ih]

theorem spellsText_flatMap {character : CodePoint → Text} {s : Text}
    (spelled : ∀ c ∈ s, Spells (character c) c) : SpellsText (s.flatMap character) s := by
  induction s with
  | nil => exact .nil
  | cons c s ih =>
    exact .cons (spelled c (by simp)) (ih fun other member => spelled other (by simp [member]))

/-- What is written in ASCII for a joined text is read back. -/
theorem spellsText_ascii {s : Text} (joined : s.Joined) : SpellsText (s.flatMap asciiCharacter) s := by
  induction s with
  | nil => exact .nil
  | cons c s ih =>
    obtain ⟨bounded, apart, others⟩ := joined
    rw [List.flatMap_cons]
    cases surrogate : isSurrogate c with
    | false => exact .cons (spells_asciiCharacter ⟨bounded, surrogate⟩) (ih others)
    | true =>
      have bounds := isSurrogate_iff.mp surrogate
      rw [asciiCharacter_surrogate surrogate]
      refine .lone (by omega) (fun high rest => ?_) (ih others)
      cases s with
      | nil => exact secondHalf?_of_take (by simp)
      | cons d s =>
        rw [List.flatMap_cons, List.append_assoc]
        exact secondHalf?_asciiCharacter others.1 (apart high d rfl) (by simp)

theorem gap_nil : Gap [] := by simp [Gap]

theorem gap_space : Gap [0x20] := by simp [Gap, isGap]

mutual

/-- What is written on one line for a plain value denotes it. -/
theorem denotes_compact : ∀ v : Json, v.Plain → Denotes v.compact v
  | .null, _ => .null
  | .bool true, _ => .true
  | .bool false, _ => .false
  | .int _, plain => plain.elim
  | .float _, plain => plain.elim
  | .text s, plain => by
    unfold compact
    exact .text (spellsText_ascii plain)
  | .list [], _ => .emptyList gap_nil
  | .list (item :: items), plain => by
    unfold compact
    have inside := denotes_compactItems items item (denotes_compact item plain.1) plain.2
    simpa using Denotes.list gap_nil inside
  | .object [], _ => .emptyObject gap_nil
  | .object ((name, value) :: fields), plain => by
    unfold compact
    obtain ⟨distinct, joined, first, others⟩ := plain
    have inside := denotes_compactFields fields name value joined (denotes_compact value first) others
    have object := Denotes.object gap_nil inside
    rw [ofWrites_of_nodup distinct] at object
    simpa [writeText, Text.of] using object

theorem denotes_compactItems : ∀ (items : List Json) (item : Json), Denotes item.compact item →
    PlainItems items → DenotesItems (item.compact ++ compactItems items) (item :: items)
  | [], _, first, _ => .last first gap_nil
  | next :: items, item, first, plain => by
    have others := denotes_compactItems items next (denotes_compact next plain.1) plain.2
    have more := DenotesItems.more first gap_nil gap_space others
    simpa [compactItems, Text.of] using more

theorem denotes_compactFields : ∀ (fields : List (Text × Json)) (name : Text) (value : Json),
    name.Joined → Denotes value.compact value → PlainFields fields →
    DenotesFields
      (writeText asciiCharacter name ++ Text.of ": " ++ value.compact ++ compactFields fields)
      ((name, value) :: fields)
  | [], name, value, joined, first, _ => by
    have last := DenotesFields.last (spellsText_ascii joined) gap_nil gap_space first gap_nil
    simpa [compactFields, writeText, Text.of] using last
  | (next, other) :: fields, name, value, joined, first, plain => by
    have others := denotes_compactFields fields next other plain.1 (denotes_compact other plain.2.1)
      plain.2.2
    have more := DenotesFields.more (spellsText_ascii joined) gap_nil gap_space first gap_nil gap_space
      others
    simpa [compactFields, writeText, Text.of] using more

end

/-- A plain value is read back from its text on one line. -/
theorem read_compact {v : Json} (plain : v.Plain) : read v.compact = .ok v := by
  simpa using read_of_denotes gap_nil (denotes_compact v plain) gap_nil

/-! ## Documents -/

mutual

/-- A value without numbers, with distinct names in its objects. -/
def Regular : Json → Prop
  | .null => True
  | .bool _ => True
  | .int _ => False
  | .float _ => False
  | .text _ => True
  | .list items => RegularItems items
  | .object fields => (fields.map (·.1)).Nodup ∧ RegularFields fields

def RegularItems : List Json → Prop
  | [] => True
  | item :: items => Regular item ∧ RegularItems items

def RegularFields : List (Text × Json) → Prop
  | [] => True
  | (_, value) :: fields => Regular value ∧ RegularFields fields

end

theorem regularItems_iff {items : List Json} : RegularItems items ↔ ∀ item ∈ items, Regular item := by
  induction items with
  | nil => simp [RegularItems]
  | cons item items ih => simp [RegularItems, ih]

theorem regular_map {α : Type} {write : α → Json} {values : List α}
    (each : ∀ value ∈ values, (write value).Regular) : (Json.list (values.map write)).Regular := by
  refine regularItems_iff.mpr fun item member => ?_
  obtain ⟨value, inside, rfl⟩ := List.mem_map.mp member
  exact each value inside

theorem regularFields_iff {fields : List (Text × Json)} :
    RegularFields fields ↔ ∀ field ∈ fields, Regular field.2 := by
  induction fields with
  | nil => simp [RegularFields]
  | cons field fields ih => simp [RegularFields, ih]

theorem spellsText_open (s : Text) : SpellsText (s.flatMap openCharacter) s :=
  spellsText_flatMap fun c _ => spells_openCharacter c

theorem gap_newLine (level : Nat) : Gap (newLine level) := by
  intro c member
  rcases List.mem_cons.mp member with rfl | blank
  · rfl
  · rw [List.eq_of_mem_replicate blank]
    rfl

mutual

/-- What is written on many lines for a regular value denotes it. -/
theorem denotes_indented : ∀ (level : Nat) (v : Json), v.Regular → Denotes (indented level v) v
  | _, .null, _ => .null
  | _, .bool true, _ => .true
  | _, .bool false, _ => .false
  | _, .int _, regular => regular.elim
  | _, .float _, regular => regular.elim
  | _, .text s, _ => by
    unfold indented
    exact .text (spellsText_open s)
  | _, .list [], _ => .emptyList gap_nil
  | level, .list (item :: items), regular => by
    unfold indented
    have first := denotes_indented (level + 1) item regular.1
    have inside := denotes_indentedItems level items item first regular.2
    simpa using Denotes.list (gap_newLine (level + 1)) inside
  | _, .object [], _ => .emptyObject gap_nil
  | level, .object ((name, value) :: fields), regular => by
    unfold indented
    obtain ⟨distinct, first, others⟩ := regular
    have inside := denotes_indentedFields level fields name value
      (denotes_indented (level + 1) value first) others
    have object := Denotes.object (gap_newLine (level + 1)) inside
    rw [ofWrites_of_nodup distinct] at object
    simpa [writeText, Text.of] using object

theorem denotes_indentedItems : ∀ (level : Nat) (items : List Json) (item : Json),
    Denotes (indented (level + 1) item) item → RegularItems items →
    DenotesItems (indented (level + 1) item ++ indentedItems level items) (item :: items)
  | level, [], _, first, _ => .last first (gap_newLine level)
  | level, next :: items, item, first, regular => by
    have second := denotes_indented (level + 1) next regular.1
    have others := denotes_indentedItems level items next second regular.2
    have more := DenotesItems.more first gap_nil (gap_newLine (level + 1)) others
    simpa [indentedItems] using more

theorem denotes_indentedFields : ∀ (level : Nat) (fields : List (Text × Json)) (name : Text)
    (value : Json), Denotes (indented (level + 1) value) value → RegularFields fields →
    DenotesFields (writeText openCharacter name ++ Text.of ": " ++ indented (level + 1) value ++
      indentedFields level fields) ((name, value) :: fields)
  | level, [], name, value, first, _ => by
    have last := DenotesFields.last (spellsText_open name) gap_nil gap_space first (gap_newLine level)
    simpa [indentedFields, writeText, Text.of] using last
  | level, (next, other) :: fields, name, value, first, regular => by
    have others := denotes_indentedFields level fields next other
      (denotes_indented (level + 1) other regular.1) regular.2
    have more := DenotesFields.more (spellsText_open name) gap_nil gap_space first gap_nil
      (gap_newLine (level + 1)) others
    simpa [indentedFields, writeText, Text.of] using more

end

/-- A regular value is read back from its document. -/
theorem read_document {v : Json} (regular : v.Regular) : read (document v) = .ok v := by
  have feed : Gap [lineFeed] := by simp [Gap, isGap, lineFeed]
  simpa [document] using read_of_denotes gap_nil (denotes_indented 0 v regular) feed

end UrlRules.Json
