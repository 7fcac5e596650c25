import UrlRules.Proofs.Script.Failures
import UrlRules.Proofs.Script.Lockstep

/-!
# The reading of literals makes progress and ends

Whatever a text holds, every reader that returns has moved forward, and so has every turn of a loop that goes on
(`Progress`). From every position in it each loop ends, and each reader comes to a result or an error (`Ends`), the
one that the reader of what is left comes to. So no reader runs out of its fuel.
-/
namespace UrlRules.Script

open Text

variable {text : Text} {position : Nat} {α σ : Type}

/-! ## Progress -/

/-- Every reader that returns has moved forward, and every turn of a loop that goes on moves forward. -/
structure Progress (text : Text) : Prop where
  /-- Skipping never moves back, and never past the end. -/
  skip (position after : Nat) (within : position ≤ text.length)
    (skipped : skipFrom text position = .returned after) : position ≤ after ∧ after ≤ text.length
  value (depth : Nat) : PassesBlanks text (valueWithin text depth)
  object (depth : Nat) : PassesBlanks text (objectFrom text (valueWithin text depth))
  array (depth : Nat) : PassesBlanks text (arrayFrom text (valueWithin text depth))
  key : Forward text (keyFrom text)
  quoted : Forward text (textFrom text)
  regex : Forward text (regexFrom text)
  blankTurn : Advances text (blankTurn text)
  characterTurn (quote : CodePoint) (start : Nat) : Advances text (characterTurn text quote start)
  regexTurn (start : Nat) : Advances text (regexTurn text start)
  fieldTurn (depth : Nat) : Advances text (fieldTurn text (valueWithin text depth))
  itemTurn (depth : Nat) : Advances text (itemTurn text (valueWithin text depth))

theorem progress (text : Text) : Progress text where
  skip position after within skipped := by
    have moved := skipFrom_returned skipped
    exact ⟨moved.1, moved.2.1 within⟩
  value := valueWithin_passes text
  object depth := objectFrom_passes (valueWithin_passes text depth).forward
  array depth := arrayFrom_passes (valueWithin_passes text depth).forward
  key := keyFrom_forward
  quoted := textFrom_forward
  regex := regexFrom_forward
  blankTurn := blankTurn_advances
  characterTurn _ _ := characterTurn_advances
  regexTurn _ := regexTurn_advances
  fieldTurn depth := fieldTurn_advances (valueWithin_passes text depth).forward
  itemTurn depth := itemTurn_advances (valueWithin_passes text depth).forward

/-! ## Ends -/

/-- A loop ends within as many turns as characters are left and one more, and more turns change nothing. -/
def Settles (text : Text) (turn : σ → Nat → Outcome (Turn σ α)) (position : Nat) : Prop :=
  ∀ gathered count, text.length - position < count →
    takeTurns turn count gathered position = repeatTurns text turn gathered position ∧
      repeatTurns text turn gathered position ≠ .unfinished

theorem settles_of_ends {turn : σ → Nat → Outcome (Turn σ α)}
    (ends : ∀ gathered, repeatTurns text turn gathered position ≠ .unfinished) : Settles text turn position :=
  fun gathered _ enough => ⟨takeTurns_more (ends gathered) enough, ends gathered⟩

/-- A result with its position, from a result with what is left. -/
def placed (text : Text) : α × Text → α × Nat := Prod.map id fun rest => text.length - rest.length

theorem Agrees.eq_placed {read : Nat → Outcome (α × Nat)} {given : Except Failure (α × Text)}
    (agrees : Agrees text (Reads text) (read position) given) (ends : read position ≠ .unfinished)
    (forward : Forward text read) : read position = placed text <$> .ofExcept text.length given := by
  refine agrees.eq_map ends ?_
  rintro ⟨a, after⟩ _ returned rfl
  have bound := (forward _ _ _ returned).2
  have place : text.length - (text.drop after).length = after := by
    rw [List.length_drop]
    omega
  exact congrArg (a, ·) place

/-- From a position on every loop and every reader comes to an end. A reader comes to what the reader of what is left
does, which has enough fuel, and any more of it changes nothing. -/
structure Ends (text : Text) (position : Nat) : Prop where
  blankTurn : Settles text (blankTurn text) position
  characterTurn (quote : CodePoint) (start : Nat) : Settles text (characterTurn text quote start) position
  regexTurn (start : Nat) : Settles text (regexTurn text start) position
  fieldTurn (depth : Nat) (deep : text.length - position < depth) :
    Settles text (fieldTurn text (valueWithin text depth)) position
  itemTurn (depth : Nat) (deep : text.length - position < depth) :
    Settles text (itemTurn text (valueWithin text depth)) position
  skip : skipFrom text position =
    (fun rest => text.length - rest.length) <$> .ofExcept text.length (skip (text.drop position))
  value (depth fuel : Nat) (deep : text.length - position < depth)
    (enough : 2 * (text.length - position) + 2 ≤ fuel) :
    valueWithin text depth position = placed text <$> .ofExcept text.length (readValue fuel (text.drop position))
  object (depth fuel : Nat) (deep : text.length - position < depth)
    (enough : 2 * (text.length - position) + 1 ≤ fuel) :
    objectFrom text (valueWithin text depth) position =
      placed text <$> .ofExcept text.length (expect 0x7B (text.drop position) >>= readFields fuel [])
  array (depth fuel : Nat) (deep : text.length - position < depth)
    (enough : 2 * (text.length - position) + 1 ≤ fuel) :
    arrayFrom text (valueWithin text depth) position =
      placed text <$> .ofExcept text.length (expect 0x5B (text.drop position) >>= readItems fuel [])
  key : keyFrom text position = placed text <$> .ofExcept text.length (readKey (text.drop position))
  quoted : textFrom text position = placed text <$> .ofExcept text.length
    (match text.drop position with
      | [] => failAt .unterminatedText []
      | quote :: rest => readText quote rest)
  regex : regexFrom text position = placed text <$> .ofExcept text.length (readRegex (text.drop position))
  initializer : initializerFrom text position = .ofExcept text.length (readInitializer (text.drop position))

theorem ends (within : position ≤ text.length) : Ends text position where
  blankTurn := settles_of_ends fun _ => repeatTurns_ends blankTurn_advances fun _ _ _ => blankTurn_ends
  characterTurn _ _ :=
    settles_of_ends fun _ => repeatTurns_ends characterTurn_advances fun _ _ _ => characterTurn_ends
  regexTurn _ := settles_of_ends fun _ => repeatTurns_ends regexTurn_advances fun _ _ _ => regexTurn_ends
  fieldTurn depth deep := settles_of_ends fun _ =>
    repeatTurns_ends (fieldTurn_advances (valueWithin_passes text depth).forward) fun _ _ later =>
      fieldTurn_ends fun _ after => valueWithin_ends (by omega)
  itemTurn depth deep := settles_of_ends fun _ =>
    repeatTurns_ends (itemTurn_advances (valueWithin_passes text depth).forward) fun _ _ later =>
      itemTurn_ends fun _ after => valueWithin_ends (by omega)
  skip := by
    refine (agrees_skip within).eq_map skipFrom_ends ?_
    rintro after _ - ⟨-, bound, rfl⟩
    rw [List.length_drop]
    omega
  value depth fuel deep enough :=
    (agrees_value _ _ _ _ within enough).eq_placed (valueWithin_ends deep) (valueWithin_passes text depth).forward
  object depth fuel deep enough := by
    have forward := (valueWithin_passes text depth).forward
    have agrees := agrees_object forward (agrees_value text depth) within enough
    refine agrees.eq_placed ?_ (objectFrom_passes forward).forward
    exact objectFrom_ends forward fun _ _ => valueWithin_ends (by omega)
  array depth fuel deep enough := by
    have forward := (valueWithin_passes text depth).forward
    have agrees := agrees_array forward (agrees_value text depth) within enough
    refine agrees.eq_placed ?_ (arrayFrom_passes forward).forward
    exact arrayFrom_ends forward fun _ _ => valueWithin_ends (by omega)
  key := (agrees_key within).eq_placed keyFrom_ends keyFrom_forward
  quoted := (agrees_opened within).eq_placed textFrom_ends textFrom_forward
  regex := (agrees_regex within).eq_placed regexFrom_ends regexFrom_forward
  initializer := by
    rw [(agrees_initializer within).eq_map initializerFrom_ends (f := id) fun _ _ _ same => same.symm]
    cases readInitializer (text.drop position) <;> rfl

/-- The literal that is declared under a name. -/
theorem declaredFrom_eq (text name : Text) : declaredFrom text name = .ofResult (declaredLiteral text name) := by
  unfold declaredFrom declaredLiteral
  cases found : findDeclaration? name false text with
  | none => rfl
  | some rest =>
    obtain ⟨before, s, after, whole, -, declares, rfl, -⟩ := findDeclaration?_eq_some [] found
    have suffix : after.dropWhile isBlank <:+ text := declares.suffix.1.trans ⟨before, whole.symm⟩
    have left := List.suffix_iff_eq_drop.mp suffix
    dsimp only
    rw [(ends (Nat.sub_le ..)).initializer, ← left]
    cases readInitializer (after.dropWhile isBlank) <;> rfl

/-- Reading literals makes progress in every text, from every position in it, and so it ends, with what the running
readers give. -/
theorem reading_progresses (text : Text) :
    Progress text ∧ (∀ position ≤ text.length, Ends text position) ∧
      ∀ name, declaredFrom text name = .ofResult (declaredLiteral text name) :=
  ⟨progress text, fun _ within => ends within, declaredFrom_eq text⟩

/-- An array with a regex literal and an escape is read up to the end of its text. A text that is cut off in an escape
is refused, although the escape leads past its end. -/
theorem reading_progresses_cutOff :
    (∃ start, skipFrom (Text.of " [/\\//g, 'a\\x41']") 0 = .returned start ∧ start < 17 ∧
      17 ≤ (Text.of " [/\\//g, 'a\\x41']").length) ∧
    (escapeFrom (Text.of "'\\u4") 1 = .returned ([4], 7) ∧
      Settles (Text.of "'\\u4") (characterTurn (Text.of "'\\u4") apostrophe 0) 1 ∧
      textFrom (Text.of "'\\u4") 0 = raise .unterminatedText 0) := by
  have whole : valueWithin (Text.of " [/\\//g, 'a\\x41']") 18 0 =
      .returned (.list [.text (Text.of "/\\//g"), .text (Text.of "aA")], 17) := by decide +kernel
  have cutOff := (reading_progresses (Text.of "'\\u4")).2.1
  refine ⟨(reading_progresses _).1.value 18 0 _ _ whole, by decide, ?_, ?_⟩
  · exact (cutOff 1 (by decide)).characterTurn apostrophe 0
  · rw [(cutOff 0 (by decide)).quoted]
    decide

end UrlRules.Script
