import UrlRules.Proofs.Script.Derivation
import UrlRules.Proofs.Script.Position

/-!
# Turns move forward

A turn that goes on starts inside the text and moves forward (`Advances`). So a loop ends before it has taken more
turns than characters are left (`takeTurns_ends`). A turn may lead past the end, by an escape that is cut off or a
backslash that ends a regex literal, but then no turn goes on. What a loop returns is what its last turn does
(`takeTurns_returned`), and that turn takes its character from the text (`Closes`).

Hence a reader that returns has moved forward and stays within the text (`Forward`), and the readers that skip blanks
first have moved past them (`PassesBlanks`).
-/
namespace UrlRules.Script

open Text

variable {text : Text} {position after ending start depth count : Nat} {c quote : CodePoint} {α σ : Type} {a : α}

/-! ## Loops -/

/-- A turn goes on inside the text only, and forward. -/
def Advances (text : Text) (turn : σ → Nat → Outcome (Turn σ α)) : Prop :=
  ∀ gathered position gathered' next, turn gathered position = .returned (.again gathered' next) →
    position < next ∧ position < text.length

/-- The last turn moves forward too, and not past the end. -/
def Closes (text : Text) (turn : σ → Nat → Outcome (Turn σ α)) : Prop :=
  ∀ gathered position a after, turn gathered position = .returned (.last a after) →
    position < after ∧ after ≤ text.length

/-- A reader that returns has moved forward, and not past the end. -/
def Forward (text : Text) (read : Nat → Outcome (α × Nat)) : Prop :=
  ∀ position a after, read position = .returned (a, after) → position < after ∧ after ≤ text.length

/-- A reader that returns has skipped blanks and moved forward past them, and not past the end. -/
def PassesBlanks (text : Text) (read : Nat → Outcome (α × Nat)) : Prop :=
  ∀ position a after, read position = .returned (a, after) →
    ∃ start, skipFrom text position = .returned start ∧ start < after ∧ after ≤ text.length

variable {turn : σ → Nat → Outcome (Turn σ α)} {gathered : σ}

/-- A loop returns what its last turn does. What turns keep of the position holds where that turn starts. -/
theorem takeTurns_returned (holds : Nat → Prop) (kept : ∀ gathered position gathered' next, holds position →
      turn gathered position = .returned (.again gathered' next) → holds next)
    (start : holds position) (taken : takeTurns turn count gathered position = .returned (a, after)) :
    ∃ gathered position, holds position ∧ turn gathered position = .returned (.last a after) := by
  induction count generalizing gathered position with
  | zero => cases taken
  | succ count ih =>
    obtain ⟨step, turned, taken⟩ := Outcome.bind_eq_returned.mp taken
    cases step with
    | again gathered' next => exact ih (kept _ _ _ _ start turned) taken
    | last result ending =>
      obtain ⟨rfl, rfl⟩ := Prod.mk.inj (Outcome.returned.inj taken)
      exact ⟨gathered, position, start, turned⟩

/-- A loop with turns that move forward, the last one too, moves forward. -/
theorem repeatTurns_forward (advances : Advances text turn) (closes : Closes text turn) :
    Forward text (repeatTurns text turn gathered) := by
  intro position a after taken
  obtain ⟨gathered', last, later, turned⟩ := takeTurns_returned (position ≤ ·)
    (fun _ _ _ _ before turned => Nat.le_of_lt (Nat.lt_of_le_of_lt before (advances _ _ _ _ turned).1))
    (Nat.le_refl position) taken
  have closed := closes _ _ _ _ turned
  exact ⟨Nat.lt_of_le_of_lt later closed.1, closed.2⟩

/-- A loop with turns that move forward ends: characters run out before turns. -/
theorem takeTurns_ends (advances : Advances text turn)
    (each : ∀ gathered later, position ≤ later → turn gathered later ≠ .unfinished)
    (enough : text.length - position < count) : takeTurns turn count gathered position ≠ .unfinished := by
  induction count generalizing gathered position with
  | zero => omega
  | succ count ih =>
    refine Outcome.bind_ends (each _ _ (Nat.le_refl position)) fun step turned => ?_
    cases step with
    | again gathered' next =>
      have moved := advances _ _ _ _ turned
      exact ih (fun _ later after => each _ _ (by omega)) (by omega)
    | last => simp [Turn.follow]

theorem repeatTurns_ends (advances : Advances text turn)
    (each : ∀ gathered later, position ≤ later → turn gathered later ≠ .unfinished) :
    repeatTurns text turn gathered position ≠ .unfinished :=
  takeTurns_ends advances each (Nat.lt_succ_self _)

/-- More turns change nothing where a loop has ended. -/
theorem takeTurns_more (ends : takeTurns turn count gathered position ≠ .unfinished) {more : Nat}
    (least : count ≤ more) :
    takeTurns turn more gathered position = takeTurns turn count gathered position := by
  induction count generalizing gathered position more with
  | zero => exact absurd rfl ends
  | succ count ih =>
    obtain ⟨more, rfl⟩ : ∃ n, more = n + 1 := ⟨more - 1, by omega⟩
    unfold takeTurns at ends ⊢
    cases turned : turn gathered position with
    | returned step =>
      rw [turned] at ends
      cases step with
      | again gathered' next => exact ih ends (Nat.le_of_succ_le_succ least)
      | last => rfl
    | raised => rfl
    | unfinished => rfl

theorem lt_of_getElem? (found : text[position]? = some c) : position < text.length :=
  (List.getElem?_eq_some_iff.mp found).1

/-! ## Blanks -/

/-- Skipping goes on inside the text, forward and not past the end. -/
theorem blankTurn_again {gathered next} (turned : blankTurn text () position = .returned (.again gathered next)) :
    position < next ∧ next ≤ text.length := by
  unfold blankTurn at turned
  split at turned
  · cases turned
  next c found =>
    have room := lt_of_getElem? found
    split at turned
    · cases turned
      omega
    split at turned
    · split at turned
      next =>
        cases turned
        omega
      next ending marked =>
        have bound := bound_of_find? (by simp) marked
        cases turned
        simp only [List.length_singleton] at bound
        omega
    split at turned
    · split at turned
      next => cases turned
      next ending marked =>
        have bound := bound_of_find? (by simp [endMark]) marked
        cases turned
        simp only [endMark, List.length_cons, List.length_nil] at bound
        omega
    · cases turned

theorem blankTurn_last {ending : Nat} (turned : blankTurn text () position = .returned (.last () ending)) :
    ending = position := by
  unfold blankTurn at turned
  split at turned
  · cases turned
    rfl
  split at turned
  · cases turned
  split at turned
  · split at turned <;> cases turned
  split at turned
  · split at turned <;> cases turned
  · cases turned
    rfl

theorem blankTurn_advances : Advances text (blankTurn text) := by
  intro _ position _ next turned
  have moved := blankTurn_again turned
  omega

theorem blankTurn_ends {gathered : Unit} : blankTurn text gathered position ≠ .unfinished := by
  unfold blankTurn raise
  repeat' split
  all_goals simp

/-- Skipping never moves back, and never past the end. Where it stops, nothing is skipped. -/
theorem skipFrom_returned (skipped : skipFrom text position = .returned after) :
    position ≤ after ∧ (position ≤ text.length → after ≤ text.length) ∧
      blankTurn text () after = .returned (.last () after) := by
  obtain ⟨⟨_, ending⟩, taken, ended⟩ := Outcome.bind_eq_returned.mp skipped
  cases ended
  obtain ⟨_, last, ⟨later, within⟩, turned⟩ := takeTurns_returned
    (fun now => position ≤ now ∧ (position ≤ text.length → now ≤ text.length))
    (fun _ _ _ _ before turned => by
      have moved := blankTurn_again turned
      exact ⟨by omega, fun _ => moved.2⟩)
    ⟨Nat.le_refl position, id⟩ taken
  obtain rfl := blankTurn_last turned
  exact ⟨later, within, turned⟩

theorem skipFrom_ends : skipFrom text position ≠ .unfinished :=
  Outcome.bind_ends (repeatTurns_ends blankTurn_advances fun _ _ _ => blankTurn_ends) fun _ _ => by simp

theorem expectFrom_returned (taken : expectFrom text c position = .returned after) :
    ∃ start, skipFrom text position = .returned start ∧ text[start]? = some c ∧ after = start + 1 := by
  obtain ⟨start, skipped, taken⟩ := Outcome.bind_eq_returned.mp taken
  split at taken
  next found =>
    cases taken
    exact ⟨start, skipped, found, rfl⟩
  next => cases taken

theorem expectFrom_forward (taken : expectFrom text c position = .returned after) :
    position < after ∧ after ≤ text.length := by
  obtain ⟨start, skipped, found, rfl⟩ := expectFrom_returned taken
  have later := (skipFrom_returned skipped).1
  have room := lt_of_getElem? found
  omega

theorem expectFrom_ends : expectFrom text c position ≠ .unfinished := by
  refine Outcome.bind_ends skipFrom_ends fun start _ => ?_
  split <;> simp [raise]

theorem PassesBlanks.forward {read : Nat → Outcome (α × Nat)} (passes : PassesBlanks text read) :
    Forward text read := by
  intro position a after returned
  obtain ⟨start, skipped, moved⟩ := passes _ _ _ returned
  have later := (skipFrom_returned skipped).1
  omega

theorem enclosedFrom_passes (advances : Advances text turn) (closes : Closes text turn) :
    PassesBlanks text (enclosedFrom text c turn gathered) := by
  intro position v after read
  obtain ⟨inner, opened, taken⟩ := Outcome.bind_eq_returned.mp read
  obtain ⟨start, skipped, -, rfl⟩ := expectFrom_returned opened
  have moved := repeatTurns_forward advances closes _ _ _ taken
  exact ⟨start, skipped, by omega, moved.2⟩

theorem enclosedFrom_ends (advances : Advances text turn)
    (each : ∀ gathered inner, position < inner → turn gathered inner ≠ .unfinished) :
    enclosedFrom text c turn gathered position ≠ .unfinished := by
  refine Outcome.bind_ends expectFrom_ends fun inner opened => ?_
  have moved := expectFrom_forward opened
  exact repeatTurns_ends advances fun _ later after => each _ _ (Nat.lt_of_lt_of_le moved.1 after)

/-! ## Texts and regex literals -/

theorem characterAt_ends {digits : Text} : characterAt digits position ≠ .unfinished :=
  Outcome.ofExcept_ends 0 _

theorem fixedFrom_returned {given : Text} (read : fixedFrom text count position = .returned (given, after)) :
    after = position + count := by
  obtain ⟨d, -, ended⟩ := Outcome.bind_eq_returned.mp read
  cases ended
  rfl

theorem fixedFrom_ends : fixedFrom text count position ≠ .unfinished :=
  Outcome.bind_ends characterAt_ends fun _ _ => by simp

theorem bracesFrom_forward {given : Text} (read : bracesFrom text position = .returned (given, after)) :
    position < after := by
  unfold bracesFrom at read
  split at read
  · cases read
  next ending closed =>
    obtain ⟨d, -, ended⟩ := Outcome.bind_eq_returned.mp read
    have bound := bound_of_find? (by simp) closed
    cases ended
    omega

theorem bracesFrom_ends : bracesFrom text position ≠ .unfinished := by
  unfold bracesFrom
  split
  · simp [raise]
  · exact Outcome.bind_ends characterAt_ends fun _ _ => by simp

/-- An escape takes two characters and more. It may lead past the end. -/
theorem escapeFrom_forward {given : Text} (read : escapeFrom text position = .returned (given, after)) :
    position + 2 ≤ after := by
  unfold escapeFrom at read
  split at read
  · cases read
  split at read
  · cases read
    exact Nat.le_refl _
  split at read
  · cases read
    exact Nat.le_refl _
  split at read
  · have moved := fixedFrom_returned read
    omega
  split at read
  · split at read
    · have moved := bracesFrom_forward read
      omega
    · have moved := fixedFrom_returned read
      omega
  · cases read
    exact Nat.le_refl _

theorem escapeFrom_ends : escapeFrom text position ≠ .unfinished := by
  unfold escapeFrom
  repeat' split
  all_goals first
    | exact fixedFrom_ends
    | exact bracesFrom_ends
    | simp [raise]

theorem characterTurn_advances : Advances text (characterTurn text quote start) := by
  intro read position gathered next turned
  unfold characterTurn at turned
  split at turned
  · cases turned
  next c found =>
    have room := lt_of_getElem? found
    split at turned
    · cases turned
    split at turned
    · obtain ⟨⟨given, later⟩, escaped, ended⟩ := Outcome.bind_eq_returned.mp turned
      have moved := escapeFrom_forward escaped
      cases ended
      omega
    split at turned
    · cases turned
    split at turned
    · cases turned
    · cases turned
      omega

/-- The closing quote stands in the text, wherever the escapes before it lead. -/
theorem characterTurn_closes : Closes text (characterTurn text quote start) := by
  intro read position t after turned
  unfold characterTurn at turned
  split at turned
  · cases turned
  next c found =>
    have room := lt_of_getElem? found
    split at turned
    · cases turned
      omega
    split at turned
    · obtain ⟨_, -, ended⟩ := Outcome.bind_eq_returned.mp turned
      cases ended
    split at turned
    · cases turned
    split at turned <;> cases turned

theorem characterTurn_ends {read : Text} : characterTurn text quote start read position ≠ .unfinished := by
  unfold characterTurn
  repeat' split
  all_goals first
    | exact Outcome.bind_ends escapeFrom_ends fun _ _ => by simp
    | simp [raise]

theorem textFrom_forward : Forward text (textFrom text) := by
  intro position t after read
  unfold textFrom at read
  split at read
  · cases read
  · have moved := repeatTurns_forward characterTurn_advances characterTurn_closes _ _ _ read
    omega

theorem textFrom_ends : textFrom text position ≠ .unfinished := by
  unfold textFrom
  split
  · simp [raise]
  · exact repeatTurns_ends characterTurn_advances fun _ _ _ => characterTurn_ends

/-- A backslash takes the character after it, also where there is none. -/
theorem regexTurn_advances : Advances text (regexTurn text start) := by
  intro inClass position gathered next turned
  unfold regexTurn at turned
  split at turned
  · cases turned
  next c found =>
    have room := lt_of_getElem? found
    repeat' split at turned
    all_goals cases turned
    all_goals omega

theorem regexTurn_closes : Closes text (regexTurn text start) := by
  intro inClass position t after turned
  unfold regexTurn at turned
  split at turned
  · cases turned
  next c found =>
    have room := lt_of_getElem? found
    have flags := (List.takeWhile_sublist isAsciiLower (l := text.drop (position + 1))).length_le
    rw [List.length_drop] at flags
    repeat' split at turned
    all_goals cases turned
    omega

theorem regexTurn_ends {inClass : Bool} : regexTurn text start inClass position ≠ .unfinished := by
  unfold regexTurn raise
  repeat' split
  all_goals simp

theorem regexFrom_forward : Forward text (regexFrom text) := by
  intro position t after read
  have moved := repeatTurns_forward regexTurn_advances regexTurn_closes _ _ _ read
  omega

theorem regexFrom_ends : regexFrom text position ≠ .unfinished :=
  repeatTurns_ends regexTurn_advances fun _ _ _ => regexTurn_ends

/-! ## Scalars and keys -/

theorem bound_of_numberLength {s : Text} : numberLength s ≤ s.length := by
  by_cases none : numberLength s = 0
  · omega
  · obtain ⟨token, rest, same, size, -⟩ := numberLength_ne_zero none
    rw [size, congrArg List.length same, List.length_append]
    omega

theorem bound_of_identifier {s : Text} : (identifier s).length ≤ s.length := (prefix_identifier s).length_le

theorem scalarFrom_forward : Forward text (scalarFrom text) := by
  intro position v after read
  unfold scalarFrom at read
  split at read
  · cases read
  next c found =>
    have room := lt_of_getElem? found
    have size : (text.drop position).length = text.length - position := List.length_drop
    split at read
    · obtain ⟨⟨t, ending⟩, taken, ended⟩ := Outcome.bind_eq_returned.mp read
      cases ended
      exact textFrom_forward _ _ _ taken
    split at read
    · obtain ⟨⟨t, ending⟩, taken, ended⟩ := Outcome.bind_eq_returned.mp read
      cases ended
      exact regexFrom_forward _ _ _ taken
    dsimp only at read
    split at read
    next digit =>
      obtain ⟨number, -, ended⟩ := Outcome.bind_eq_returned.mp read
      have bound := bound_of_numberLength (s := text.drop position)
      cases ended
      omega
    next =>
      split at read
      next value word =>
        have bound := bound_of_identifier (s := text.drop position)
        have some : (identifier (text.drop position)).length ≠ 0 := by
          intro none
          rw [List.length_eq_zero_iff.mp none] at word
          cases word
        cases read
        omega
      next => cases read

theorem scalarFrom_ends : scalarFrom text position ≠ .unfinished := by
  unfold scalarFrom
  split
  · simp [raise]
  split
  · exact Outcome.bind_ends textFrom_ends fun _ _ => by simp
  split
  · exact Outcome.bind_ends regexFrom_ends fun _ _ => by simp
  dsimp only
  split
  · exact Outcome.bind_ends (Outcome.ofExcept_ends 0 _) fun _ _ => by simp
  · split <;> simp [raise]

theorem keyFrom_forward : Forward text (keyFrom text) := by
  intro position name after read
  unfold keyFrom at read
  split at read
  · cases read
  split at read
  · exact textFrom_forward _ _ _ read
  next c found _ =>
    have room := lt_of_getElem? found
    extract_lets s name size at read
    have bound : size ≤ s.length := by
      unfold size
      split
      · exact bound_of_numberLength
      · exact bound_of_identifier
    have left : s.length = text.length - position := List.length_drop
    split at read
    · cases read
    · cases read
      omega

theorem keyFrom_ends : keyFrom text position ≠ .unfinished := by
  unfold keyFrom
  split
  · simp [raise]
  split
  · exact textFrom_ends
  · extract_lets s name size
    split <;> simp [raise]

/-! ## Objects and arrays -/

/-- After an item the loop goes on, if nothing is wrong. -/
theorem separatorFrom_returned {fault : Fault} {step : Turn σ α}
    (turned : separatorFrom text c fault gathered position = .returned step) :
    ∃ next, step = .again gathered next ∧ position ≤ next := by
  obtain ⟨last, skipped, turned⟩ := Outcome.bind_eq_returned.mp turned
  have blank := (skipFrom_returned skipped).1
  split at turned
  · cases turned
    exact ⟨last + 1, rfl, by omega⟩
  split at turned
  · cases turned
    exact ⟨last, rfl, blank⟩
  · cases turned

theorem separatorFrom_ends {fault : Fault} :
    (separatorFrom text c fault gathered position : Outcome (Turn σ α)) ≠ .unfinished := by
  refine Outcome.bind_ends skipFrom_ends fun last _ => ?_
  repeat' split
  all_goals simp [raise]

section

variable {value : Nat → Outcome (Json × Nat)}

/-- A field takes its key and more. -/
theorem fieldTurn_advances (forward : Forward text value) : Advances text (fieldTurn text value) := by
  intro read position gathered next turned
  obtain ⟨first, skipped, turned⟩ := Outcome.bind_eq_returned.mp turned
  have blank := (skipFrom_returned skipped).1
  split at turned
  · cases turned
  obtain ⟨⟨name, keyed⟩, key, turned⟩ := Outcome.bind_eq_returned.mp turned
  obtain ⟨inner, colon, turned⟩ := Outcome.bind_eq_returned.mp turned
  obtain ⟨⟨item, ended⟩, valued, turned⟩ := Outcome.bind_eq_returned.mp turned
  obtain ⟨later, same, after⟩ := separatorFrom_returned turned
  have named := keyFrom_forward _ _ _ key
  have marked := expectFrom_forward colon
  have moved := forward _ _ _ valued
  cases same
  omega

theorem fieldTurn_closes : Closes text (fieldTurn text value) := by
  intro read position v after turned
  obtain ⟨first, skipped, turned⟩ := Outcome.bind_eq_returned.mp turned
  have blank := (skipFrom_returned skipped).1
  split at turned
  next found =>
    have room := lt_of_getElem? found
    cases turned
    omega
  obtain ⟨_, -, turned⟩ := Outcome.bind_eq_returned.mp turned
  obtain ⟨_, -, turned⟩ := Outcome.bind_eq_returned.mp turned
  obtain ⟨_, -, turned⟩ := Outcome.bind_eq_returned.mp turned
  obtain ⟨next, same, -⟩ := separatorFrom_returned turned
  cases same

/-- A turn ends if the values after its start do. -/
theorem fieldTurn_ends {read : List (Text × Json)}
    (each : ∀ later, position < later → value later ≠ .unfinished) :
    fieldTurn text value read position ≠ .unfinished := by
  refine Outcome.bind_ends skipFrom_ends fun first skipped => ?_
  have blank := (skipFrom_returned skipped).1
  split
  · simp
  refine Outcome.bind_ends keyFrom_ends ?_
  rintro ⟨name, keyed⟩ key
  have named := keyFrom_forward _ _ _ key
  refine Outcome.bind_ends expectFrom_ends fun inner colon => ?_
  have marked := expectFrom_forward colon
  exact Outcome.bind_ends (each inner (by omega)) fun _ _ => separatorFrom_ends

theorem objectFrom_passes (forward : Forward text value) : PassesBlanks text (objectFrom text value) :=
  enclosedFrom_passes (fieldTurn_advances forward) fieldTurn_closes

theorem objectFrom_ends (forward : Forward text value)
    (each : ∀ later, position < later → value later ≠ .unfinished) :
    objectFrom text value position ≠ .unfinished :=
  enclosedFrom_ends (fieldTurn_advances forward) fun _ _ inner =>
    fieldTurn_ends fun later after => each later (Nat.lt_trans inner after)

theorem itemTurn_advances (forward : Forward text value) : Advances text (itemTurn text value) := by
  intro read position gathered next turned
  obtain ⟨first, skipped, turned⟩ := Outcome.bind_eq_returned.mp turned
  have blank := (skipFrom_returned skipped).1
  split at turned
  · cases turned
  split at turned
  · cases turned
  obtain ⟨⟨item, ended⟩, valued, turned⟩ := Outcome.bind_eq_returned.mp turned
  obtain ⟨later, same, after⟩ := separatorFrom_returned turned
  have moved := forward _ _ _ valued
  cases same
  omega

theorem itemTurn_closes : Closes text (itemTurn text value) := by
  intro read position v after turned
  obtain ⟨first, skipped, turned⟩ := Outcome.bind_eq_returned.mp turned
  have blank := (skipFrom_returned skipped).1
  split at turned
  next found =>
    have room := lt_of_getElem? found
    cases turned
    omega
  split at turned
  · cases turned
  obtain ⟨_, -, turned⟩ := Outcome.bind_eq_returned.mp turned
  obtain ⟨next, same, -⟩ := separatorFrom_returned turned
  cases same

/-- A turn ends if the values from its start on do. -/
theorem itemTurn_ends {read : List Json} (each : ∀ later, position ≤ later → value later ≠ .unfinished) :
    itemTurn text value read position ≠ .unfinished := by
  refine Outcome.bind_ends skipFrom_ends fun first skipped => ?_
  have blank := (skipFrom_returned skipped).1
  split
  · simp
  split
  · simp [raise]
  exact Outcome.bind_ends (each first blank) fun _ _ => separatorFrom_ends

theorem arrayFrom_passes (forward : Forward text value) : PassesBlanks text (arrayFrom text value) :=
  enclosedFrom_passes (itemTurn_advances forward) itemTurn_closes

theorem arrayFrom_ends (forward : Forward text value)
    (each : ∀ later, position < later → value later ≠ .unfinished) :
    arrayFrom text value position ≠ .unfinished :=
  enclosedFrom_ends (itemTurn_advances forward) fun _ _ inner =>
    itemTurn_ends fun later after => each later (Nat.lt_of_lt_of_le inner after)

end

/-! ## Values -/

theorem valueWithin_passes (text : Text) (depth : Nat) : PassesBlanks text (valueWithin text depth) := by
  induction depth with
  | zero =>
    intro position v after read
    cases read
  | succ depth ih =>
    intro position v after read
    obtain ⟨start, skipped, read⟩ := Outcome.bind_eq_returned.mp read
    refine ⟨start, skipped, ?_⟩
    split at read
    · exact (objectFrom_passes ih.forward).forward _ _ _ read
    · exact (arrayFrom_passes ih.forward).forward _ _ _ read
    · exact scalarFrom_forward _ _ _ read

/-- As many values can be inside each other as characters are left. -/
theorem valueWithin_ends (enough : text.length - position < depth) :
    valueWithin text depth position ≠ .unfinished := by
  induction depth generalizing position with
  | zero => omega
  | succ depth ih =>
    refine Outcome.bind_ends skipFrom_ends fun start skipped => ?_
    have blank := (skipFrom_returned skipped).1
    have forward := (valueWithin_passes text depth).forward
    -- A bracket takes a character, so the values inside have fewer left.
    split
    next found =>
      have room := lt_of_getElem? found
      exact objectFrom_ends forward fun later _ => ih (by omega)
    next found =>
      have room := lt_of_getElem? found
      exact arrayFrom_ends forward fun later _ => ih (by omega)
    next => exact scalarFrom_ends

theorem initializerFrom_ends : initializerFrom text position ≠ .unfinished := by
  refine Outcome.bind_ends (valueWithin_ends (Nat.lt_succ_self _)) ?_
  rintro ⟨v, ending⟩ _
  refine Outcome.bind_ends skipFrom_ends fun last _ => ?_
  split
  · simp
  · split <;> simp [raise]

end UrlRules.Script
