import UrlRules.Proofs.Json.Writing

/-!
# The texts of a value

`texts v` are all texts in a value, the names of fields among them. A document of a value has line feeds, printable
characters of ASCII, and characters of these texts that are no control characters (`mem_document`). So it holds no
carriage return (`not_mem_document`), and it is Unicode if the texts are (`forall_document`).
-/
namespace UrlRules.Json

open Text

mutual

/-- All texts in a value. -/
def texts : Json → List Text
  | .text s => [s]
  | .list items => textsOfItems items
  | .object fields => textsOfFields fields
  | _ => []

def textsOfItems : List Json → List Text
  | [] => []
  | item :: items => item.texts ++ textsOfItems items

def textsOfFields : List (Text × Json) → List Text
  | [] => []
  | (name, value) :: fields => name :: value.texts ++ textsOfFields fields

end

theorem mem_textsOfItems {s : Text} {items : List Json} :
    s ∈ textsOfItems items ↔ ∃ item ∈ items, s ∈ item.texts := by
  induction items with
  | nil => simp [textsOfItems]
  | cons item items ih => simp [textsOfItems, ih]

theorem mem_textsOfFields {s : Text} {fields : List (Text × Json)} :
    s ∈ textsOfFields fields ↔ ∃ field ∈ fields, s = field.1 ∨ s ∈ field.2.texts := by
  induction fields with
  | nil => simp [textsOfFields]
  | cons field fields ih => simp [textsOfFields, ih, or_assoc]

/-! ## Characters of documents -/

/-- A printable character of ASCII. -/
def Ascii (c : CodePoint) : Prop := 0x20 ≤ c ∧ c < 0x7F

instance (c : CodePoint) : Decidable (Ascii c) := inferInstanceAs (Decidable (_ ∧ _))

/-- A line feed, a printable character of ASCII, or a character of some texts that is no control character. -/
def Shown (texts : List Text) (c : CodePoint) : Prop :=
  c = lineFeed ∨ Ascii c ∨ 0x20 ≤ c ∧ ∃ s ∈ texts, c ∈ s

variable {all more : List Text} {c d : CodePoint} {s : Text}

theorem Shown.mono (shown : Shown all c) (subset : all ⊆ more) : Shown more c := by
  rcases shown with feed | ascii | ⟨printable, s, member, inside⟩
  · exact .inl feed
  · exact .inr (.inl ascii)
  · exact .inr (.inr ⟨printable, s, subset member, inside⟩)

theorem ascii_hexPadded (width n : Nat) : ∀ c ∈ hexPadded width n, Ascii c := by
  have digit : ∀ n < 16, Ascii (hexDigit n) := by decide
  induction width generalizing n with
  | zero => simp [hexPadded]
  | succ width ih =>
    intro c member
    rcases List.mem_append.mp member with before | last
    · exact ih (n / 16) c before
    · rw [List.mem_singleton.mp last]
      exact digit _ (Nat.mod_lt _ (by decide))

theorem ascii_controlEscape {e : Text} (escaped : controlEscape? c = some e) : ∀ d ∈ e, Ascii d := by
  unfold controlEscape? at escaped
  split at escaped
  next quoted =>
    cases escaped
    rcases quoted with rfl | rfl <;> decide
  repeat
    split at escaped
    next =>
      cases escaped
      decide
  split at escaped
  next =>
    cases escaped
    have mark : Ascii 0x5C ∧ Ascii 0x75 := by decide
    simp only [List.forall_mem_cons]
    exact ⟨mark.1, mark.2, ascii_hexPadded 4 c⟩
  next => cases escaped

/-- An escape is in ASCII, and a character without one is no control character. -/
theorem mem_openCharacter (member : d ∈ openCharacter c) : Ascii d ∨ 0x20 ≤ d ∧ d = c := by
  unfold openCharacter at member
  cases escaped : controlEscape? c with
  | none =>
    rw [escaped] at member
    obtain rfl : d = c := by simpa using member
    exact .inr ⟨(plain_of_controlEscape? escaped).2, rfl⟩
  | some e =>
    rw [escaped] at member
    exact .inl (ascii_controlEscape escaped d member)

theorem mem_writeText (member : c ∈ writeText openCharacter s) : Shown [s] c := by
  have quote : Ascii 0x22 := by decide
  unfold writeText at member
  rcases List.mem_append.mp member with first | last
  · rcases List.mem_cons.mp first with rfl | inside
    · exact .inr (.inl quote)
    · obtain ⟨d, own, written⟩ := List.mem_flatMap.mp inside
      rcases mem_openCharacter written with ascii | ⟨printable, rfl⟩
      · exact .inr (.inl ascii)
      · exact .inr (.inr ⟨printable, s, by simp, own⟩)
  · rw [List.mem_singleton.mp last]
    exact .inr (.inl quote)

theorem mem_newLine {level : Nat} (member : c ∈ newLine level) : Shown all c := by
  rcases List.mem_cons.mp member with rfl | blank
  · exact .inl rfl
  · rw [List.eq_of_mem_replicate blank]
    exact .inr (.inl (by decide))

/-- Characters of ASCII are shown. -/
theorem shown_of_ascii {t : Text} (ascii : ∀ c ∈ t, Ascii c) (member : c ∈ t) : Shown all c :=
  .inr (.inl (ascii c member))

mutual

theorem mem_indented : ∀ (level : Nat) (v : Json), v.Regular → ∀ c ∈ indented level v, Shown v.texts c
  | _, .null, _ => fun _ => shown_of_ascii (t := Text.of "null") (by decide)
  | _, .bool true, _ => fun _ => shown_of_ascii (t := Text.of "true") (by decide)
  | _, .bool false, _ => fun _ => shown_of_ascii (t := Text.of "false") (by decide)
  | _, .int _, regular => regular.elim
  | _, .float _, regular => regular.elim
  | _, .text s, _ => fun _ => mem_writeText
  | _, .list [], _ => fun _ => shown_of_ascii (t := [0x5B, 0x5D]) (by decide)
  | level, .list (item :: items), regular => by
    have first := mem_indented (level + 1) item regular.1
    have others := mem_indentedItems level items regular.2
    intro c member
    unfold indented at member
    simp only [List.mem_append, List.mem_cons] at member
    rcases member with ((rfl | line) | own) | later
    · exact .inr (.inl (by decide))
    · exact mem_newLine line
    · exact (first c own).mono (List.subset_append_left ..)
    · exact (others c later).mono (List.subset_append_right ..)
  | _, .object [], _ => fun _ => shown_of_ascii (t := [0x7B, 0x7D]) (by decide)
  | level, .object ((name, value) :: fields), regular => by
    have first := mem_indented (level + 1) value regular.2.1
    have others := mem_indentedFields level fields regular.2.2
    intro c member
    unfold indented at member
    simp only [List.mem_append, List.mem_cons] at member
    rcases member with ((((rfl | line) | named) | colon) | own) | later
    · exact .inr (.inl (by decide))
    · exact mem_newLine line
    · exact (mem_writeText named).mono (by simp [texts, textsOfFields])
    · exact shown_of_ascii (by decide) colon
    · exact (first c own).mono (fun s inside => by simp [texts, textsOfFields, inside])
    · exact (others c later).mono (fun s inside => by simp [texts, textsOfFields, inside])

theorem mem_indentedItems : ∀ (level : Nat) (items : List Json), RegularItems items →
    ∀ c ∈ indentedItems level items, Shown (textsOfItems items) c
  | level, [], _ => by
    intro c member
    unfold indentedItems at member
    rcases List.mem_append.mp member with line | bracket
    · exact mem_newLine line
    · exact shown_of_ascii (by decide) bracket
  | level, item :: items, regular => by
    have first := mem_indented (level + 1) item regular.1
    have others := mem_indentedItems level items regular.2
    intro c member
    unfold indentedItems at member
    simp only [List.mem_append, List.mem_cons] at member
    rcases member with ((rfl | line) | own) | later
    · exact .inr (.inl (by decide))
    · exact mem_newLine line
    · exact (first c own).mono (List.subset_append_left ..)
    · exact (others c later).mono (List.subset_append_right ..)

theorem mem_indentedFields : ∀ (level : Nat) (fields : List (Text × Json)), RegularFields fields →
    ∀ c ∈ indentedFields level fields, Shown (textsOfFields fields) c
  | level, [], _ => by
    intro c member
    unfold indentedFields at member
    rcases List.mem_append.mp member with line | brace
    · exact mem_newLine line
    · exact shown_of_ascii (by decide) brace
  | level, (name, value) :: fields, regular => by
    have first := mem_indented (level + 1) value regular.1
    have others := mem_indentedFields level fields regular.2
    intro c member
    unfold indentedFields at member
    simp only [List.mem_append, List.mem_cons] at member
    rcases member with ((((rfl | line) | named) | colon) | own) | later
    · exact .inr (.inl (by decide))
    · exact mem_newLine line
    · exact (mem_writeText named).mono (by simp [textsOfFields])
    · exact shown_of_ascii (by decide) colon
    · exact (first c own).mono (fun s inside => by simp [textsOfFields, inside])
    · exact (others c later).mono (fun s inside => by simp [textsOfFields, inside])

end

theorem mem_document {v : Json} (regular : v.Regular) (member : c ∈ v.document) : Shown v.texts c := by
  rcases List.mem_append.mp member with inside | feed
  · exact mem_indented 0 v regular c inside
  · exact .inl (List.mem_singleton.mp feed)

theorem not_mem_document {v : Json} (regular : v.Regular) : carriageReturn ∉ v.document := by
  intro member
  rcases mem_document regular member with feed | ascii | ⟨printable, -⟩
  · exact absurd feed (by decide)
  · exact absurd ascii (by decide)
  · exact absurd printable (by decide)

/-- What holds of ASCII and of all characters of the texts of a value holds of its document. -/
theorem forall_document {v : Json} (regular : v.Regular) {P : CodePoint → Prop} (ascii : ∀ c < 0x7F, P c)
    (each : ∀ s ∈ v.texts, ∀ c ∈ s, P c) : ∀ c ∈ v.document, P c := by
  intro c member
  rcases mem_document regular member with rfl | inside | ⟨-, s, inside, own⟩
  · exact ascii _ (by decide)
  · exact ascii c inside.2
  · exact each s inside c own

end UrlRules.Json
