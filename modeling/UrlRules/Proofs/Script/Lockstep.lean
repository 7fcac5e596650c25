import UrlRules.Proofs.Script.Turns

/-!
# Reading by position and by what is left

A reader by position and the reader of what is left at that position come to the same (`Agrees`), turn by turn.
-/
namespace UrlRules.Script

open Text

variable {text rest : Text} {position start depth count fuel : Nat} {c quote : CodePoint}
variable {α β γ δ : Type} {same : α → β → Prop}

/-! ## Agreement -/

/-- Two ways of reading come to the same. What is unfinished may come to anything yet. -/
inductive Agrees (text : Text) (same : α → β → Prop) : Outcome α → Except Failure β → Prop
  | returned {a : α} {b : β} (both : same a b) : Agrees text same (.returned a) (.ok b)
  | raised (failure : Failure) : Agrees text same (.raised (failure.toError text.length)) (.error failure)
  | unfinished (given : Except Failure β) : Agrees text same .unfinished given

/-- What is left at a later position of the text. -/
def Left (text : Text) (position later : Nat) (rest : Text) : Prop :=
  position ≤ later ∧ later ≤ text.length ∧ rest = text.drop later

/-- The same was read, and the same is left. -/
def Reads (text : Text) (x : α × Nat) (y : α × Text) : Prop := y = (x.1, text.drop x.2)

theorem Agrees.bind {same' : γ → δ → Prop} {x : Outcome α} {y : Except Failure β} {f : α → Outcome γ}
    {g : β → Except Failure δ} (first : Agrees text same x y)
    (others : ∀ a b, x = .returned a → same a b → Agrees text same' (f a) (g b)) :
    Agrees text same' (x >>= f) (y >>= g) := by
  cases first with
  | returned both => exact others _ _ rfl both
  | raised failure => exact .raised failure
  | unfinished => exact .unfinished _

theorem Agrees.imp {same' : α → β → Prop} {x : Outcome α} {y : Except Failure β} (agrees : Agrees text same x y)
    (more : ∀ a b, x = .returned a → same a b → same' a b) : Agrees text same' x y := by
  cases agrees with
  | returned both => exact .returned (more _ _ rfl both)
  | raised failure => exact .raised failure
  | unfinished => exact .unfinished _

/-- The first step of a turn, with what comes after the turn. -/
theorem Agrees.step {ε : Type} {same' : γ → δ → Prop} {x : Outcome α} {y : Except Failure β} {f : α → Outcome ε}
    {after : ε → Outcome γ} {g : β → Except Failure δ} (first : Agrees text same x y)
    (others : ∀ a b, x = .returned a → same a b → Agrees text same' (f a >>= after) (g b)) :
    Agrees text same' ((x >>= f) >>= after) (y >>= g) := by
  rw [bind_assoc]
  exact first.bind others

theorem Agrees.fault {fault : Fault} (within : position ≤ text.length) (left : rest = text.drop position) :
    Agrees text same (raise fault position) (failAt fault rest) := by
  have place : text.length - rest.length + 0 = position := by
    rw [left, List.length_drop]
    omega
  have failed : Agrees text same _ _ := .raised (.malformed fault rest.length 0)
  rwa [Failure.toError, place] at failed

theorem drop_of_getElem? (found : text[position]? = some c) :
    text.drop position = c :: text.drop (position + 1) := by
  obtain ⟨room, rfl⟩ := List.getElem?_eq_some_iff.mp found
  exact List.drop_eq_getElem_cons room

theorem drop_of_none (ended : text[position]? = none) : text.drop position = [] :=
  List.drop_eq_nil_of_le (List.getElem?_eq_none_iff.mp ended)

theorem getElem?_of_drop (left : text.drop position = c :: rest) : text[position]? = some c := by
  have first := congrArg (·[0]?) left
  simpa using first

/-! ## Marks -/

theorem startsWith_singleton (d : CodePoint) (s : Text) : startsWith (d :: s) [c] = true ↔ c = d := by
  unfold startsWith
  by_cases same : c = d <;> simp [dropLead?, same]

theorem afterLine_eq (s : Text) :
    afterLine s = match offset? [lineFeed] s with
      | none => []
      | some count => s.drop (count + 1) := by
  induction s with
  | nil => rfl
  | cons d s ih =>
    rw [afterLine, offset?_cons]
    by_cases isEnd : lineFeed = d
    · rw [if_pos isEnd.symm, if_pos ((startsWith_singleton d s).mpr isEnd)]
      rfl
    · rw [if_neg (Ne.symm isEnd), if_neg fun starts => isEnd ((startsWith_singleton d s).mp starts), ih]
      cases offset? [lineFeed] s <;> rfl

theorem afterComment?_eq (s : Text) :
    afterComment? s = (offset? endMark s).map fun count => s.drop (count + 2) := by
  fun_induction afterComment? s with
  | case1 => rfl
  | case2 d =>
    rw [offset?_cons, offset?_nil (by simp [endMark])]
    by_cases star : 0x2A = d <;> simp [endMark, startsWith, dropLead?, star]
  | case3 d e rest ended =>
    obtain ⟨rfl, rfl⟩ := ended
    rfl
  | case4 d e rest apart ih =>
    have starts : ¬startsWith (d :: e :: rest) endMark = true := by
      rw [endMark, startsWith_pair]
      intro two
      obtain ⟨first, second⟩ := List.cons.inj two
      exact apart ⟨first, (List.cons.inj second).1⟩
    rw [offset?_cons, if_neg starts, ih]
    cases offset? endMark (e :: rest) <;> rfl

theorem cut_eq (s : Text) :
    cut c s = match offset? [c] s with
      | none => (s, none)
      | some count => (s.take count, some (s.drop (count + 1))) := by
  induction s with
  | nil => rfl
  | cons d s ih =>
    rw [cut, offset?_cons]
    by_cases isEnd : c = d
    · rw [if_pos isEnd.symm, if_pos ((startsWith_singleton d s).mpr isEnd)]
      rfl
    · rw [if_neg (Ne.symm isEnd), if_neg fun starts => isEnd ((startsWith_singleton d s).mp starts), ih]
      cases offset? [c] s <;> rfl

/-! ## Blanks -/

theorem agrees_blanks (count position fuel : Nat) (within : position ≤ text.length)
    (enough : text.length - position ≤ fuel) :
    Agrees text (fun x rest => rest = text.drop x.2) (takeTurns (blankTurn text) count () position)
      (skipBlanks fuel (text.drop position)) := by
  induction count generalizing position fuel with
  | zero => exact .unfinished _
  | succ count ih =>
    cases found : text[position]? with
    | none =>
      have turned : blankTurn text () position = .returned (.last () position) := by
        unfold blankTurn
        rw [found]
        rfl
      have left := drop_of_none found
      rw [takeTurns, turned, left]
      cases fuel <;> exact .returned left.symm
    | some c =>
      have room := lt_of_getElem? found
      have whole := drop_of_getElem? found
      obtain ⟨fuel, rfl⟩ : ∃ n, fuel = n + 1 := ⟨fuel - 1, by omega⟩
      rw [takeTurns, blankTurn, found, whole, skipBlanks]
      dsimp only
      rw [← whole]
      split
      · exact ih _ _ (by omega) (by omega)
      split
      · rw [afterLine_eq, find?]
        cases marked : offset? [lineFeed] (text.drop position) with
        | none =>
          have ended := ih text.length fuel (Nat.le_refl _) (by omega)
          rwa [List.drop_length] at ended
        | some before =>
          have bound := bound_of_offset? (by simp) marked
          simp only [List.length_drop, List.length_singleton] at bound
          have later := ih (position + before + 1) fuel (by omega) (by omega)
          rwa [Nat.add_assoc, ← List.drop_drop] at later
      split
      · rw [List.drop_drop, afterComment?_eq, find?]
        cases marked : offset? endMark (text.drop (position + 2)) with
        | none => exact .fault within rfl
        | some before =>
          have bound := bound_of_offset? (by simp [endMark]) marked
          simp only [List.length_drop, endMark, List.length_cons, List.length_nil] at bound
          have later := ih (position + 2 + before + 2) fuel (by omega) (by omega)
          rwa [Nat.add_assoc, ← List.drop_drop] at later
      · exact .returned rfl

theorem agrees_skip (within : position ≤ text.length) :
    Agrees text (Left text position) (skipFrom text position) (skip (text.drop position)) := by
  have turns := agrees_blanks (text.length - position + 1) position (text.drop position).length within
    (Nat.le_of_eq (List.length_drop (i := position) (l := text)).symm)
  have skips : Agrees text (fun later rest => rest = text.drop later) (skipFrom text position)
      (skip (text.drop position)) := by
    unfold skip
    rw [← bind_pure (skipBlanks _ _)]
    exact turns.bind fun _ _ _ left => .returned left
  refine skips.imp fun later _ skipped left => ?_
  have blank := skipFrom_returned skipped
  exact ⟨blank.1, blank.2.1 within, left⟩

/-- Where skipping stops, nothing is skipped. -/
theorem skipFrom_again {after : Nat} (skipped : skipFrom text position = .returned after) :
    skipFrom text after = .returned after := by
  have turned := (skipFrom_returned skipped).2.2
  rw [skipFrom, repeatTurns, takeTurns, turned]
  rfl

theorem agrees_expect (within : position ≤ text.length) :
    Agrees text (Left text (position + 1)) (expectFrom text c position) (expect c (text.drop position)) := by
  refine (agrees_skip within).bind ?_
  rintro start _ - ⟨later, bound, rfl⟩
  cases found : text[start]? with
  | none =>
    have ended := drop_of_none found
    rw [if_neg (by simp), ended]
    exact .fault bound ended.symm
  | some d =>
    have room := lt_of_getElem? found
    have whole := drop_of_getElem? found
    rw [whole]
    by_cases isMark : d = c
    · simp only [isMark, if_true]
      exact .returned ⟨Nat.succ_le_succ later, room, rfl⟩
    · simp only [isMark, Option.some.injEq, if_false]
      exact .fault bound whole.symm

/-! ## Texts -/

theorem agrees_character {digits : Text} {left past : Nat} (place : text.length - left + past = position) :
    Agrees text (· = ·) (characterAt digits position) (characterOf digits left past) := by
  have fault : Agrees text (Eq (α := CodePoint)) (.raised (.malformed (.invalidDigits digits) position))
      (.error (.malformed (.invalidDigits digits) left past)) := by
    rw [← place]
    exact .raised (.malformed (.invalidDigits digits) left past)
  have origin : 0 - 0 + position = position := by omega
  unfold characterAt characterOf
  split
  · rwa [Outcome.ofExcept, Failure.toError, origin]
  split
  · exact .raised .codePointTooLarge
  split
  · exact .returned rfl
  · rwa [Outcome.ofExcept, Failure.toError, origin]

/-- The digits that are cut off are counted by position, and as characters past the end by what is left. -/
theorem agrees_fixed (within : position ≤ text.length) :
    Agrees text (Reads text) (fixedFrom text count position) (readFixed count (text.drop position)) := by
  have place : text.length - ((text.drop position).drop count).length + (count - (text.drop position).length) =
      position + count := by
    simp only [List.length_drop]
    omega
  refine (agrees_character place).bind fun c d _ same => ?_
  obtain rfl := same
  refine .returned ?_
  rw [List.drop_drop]
  rfl

theorem agrees_braces (opened : text[position]? = some 0x7B) :
    Agrees text (Reads text) (bracesFrom text position)
      (match cut 0x7D (text.drop (position + 1)) with
        | (_, none) => failAt .unterminatedCodePoint (text.drop position)
        | (digits, some after) => do
            let d ← characterOf digits after.length 0
            return ([d], after)) := by
  have room := lt_of_getElem? opened
  have apart : ¬startsWith (0x7B :: text.drop (position + 1)) [0x7D] = true := by
    rw [startsWith_singleton]
    decide
  rw [bracesFrom, find?, drop_of_getElem? opened, offset?_cons, if_neg apart, cut_eq]
  cases closed : offset? [0x7D] (text.drop (position + 1)) with
  | none => exact .fault (Nat.le_of_lt room) (drop_of_getElem? opened).symm
  | some before =>
    have bound := bound_of_offset? (by simp) closed
    simp only [List.length_drop, List.length_singleton] at bound
    have place : text.length - ((text.drop (position + 1)).drop (before + 1)).length + 0 =
        position + (before + 1) + 1 := by
      simp only [List.length_drop]
      omega
    have size : position + (before + 1) - (position + 1) = before := by omega
    have next : position + 1 + (before + 1) = position + (before + 1) + 1 := by omega
    dsimp only [Option.map_some]
    rw [size]
    refine (agrees_character place).bind fun c d _ same => ?_
    obtain rfl := same
    refine .returned ?_
    rw [List.drop_drop, next]
    rfl

theorem agrees_escape (within : position < text.length) :
    Agrees text (Reads text) (escapeFrom text position) (readEscape (text.drop (position + 1))) := by
  unfold escapeFrom readEscape
  cases found : text[position + 1]? with
  | none =>
    have ended := drop_of_none found
    rw [ended]
    exact .fault within ended.symm
  | some c =>
    have room := lt_of_getElem? found
    rw [drop_of_getElem? found]
    dsimp only
    cases shortEscape? c with
    | some d => exact .returned rfl
    | none =>
      dsimp only
      split
      · exact .returned rfl
      split
      · exact agrees_fixed room
      split
      · split
        next brace =>
          have whole := drop_of_getElem? brace
          have agreed := agrees_braces brace
          rw [whole] at agreed ⊢
          exact agreed
        next noBrace =>
          split
          next inner left => exact absurd (getElem?_of_drop left) noBrace
          next => exact agrees_fixed room
      · exact .returned rfl

theorem agrees_characters (opened : start ≤ text.length) (enough : text.length - position < fuel) {read : Text} :
    Agrees text (Reads text) (takeTurns (characterTurn text quote start) count read position)
      (readCharacters quote (text.length - start) fuel read (text.drop position)) := by
  have unended : Agrees text (Reads text (α := Text)) (raise .unterminatedText start)
      (.error (.malformed .unterminatedText (text.length - start) 0)) := by
    have place : (text.drop start).length = text.length - start := List.length_drop
    rw [← place]
    exact .fault opened rfl
  induction count generalizing position fuel read with
  | zero => exact .unfinished _
  | succ count ih =>
    obtain ⟨fuel, rfl⟩ : ∃ n, fuel = n + 1 := ⟨fuel - 1, by omega⟩
    rw [takeTurns, characterTurn]
    cases found : text[position]? with
    | none =>
      rw [drop_of_none found, readCharacters]
      exact unended
    | some c =>
      have room := lt_of_getElem? found
      rw [drop_of_getElem? found, readCharacters]
      dsimp only
      split
      · exact .returned rfl
      split
      · refine (agrees_escape room).step ?_
        rintro ⟨given, next⟩ _ escaped rfl
        have moved := escapeFrom_forward escaped
        exact ih (by omega)
      split
      · exact .fault (Nat.le_of_lt room) (drop_of_getElem? found).symm
      split
      · exact unended
      · exact ih (by omega)

theorem agrees_text (opened : text[position]? = some quote) :
    Agrees text (Reads text) (textFrom text position) (readText quote (text.drop (position + 1))) := by
  have room := lt_of_getElem? opened
  have size : (text.drop (position + 1)).length + 1 = text.length - position := by
    rw [List.length_drop]
    omega
  rw [textFrom, opened, readText, size]
  exact agrees_characters (Nat.le_of_lt room) (by omega)

theorem agrees_opened (within : position ≤ text.length) :
    Agrees text (Reads text) (textFrom text position)
      (match text.drop position with
        | [] => failAt .unterminatedText []
        | quote :: rest => readText quote rest) := by
  cases found : text[position]? with
  | none =>
    have ended := drop_of_none found
    rw [textFrom, found, ended]
    exact .fault within ended.symm
  | some quote =>
    rw [drop_of_getElem? found]
    exact agrees_text found

/-! ## Regex literals -/

/-- What a regex literal comes to that was opened at `start`, when so many characters of its body are left at a
position. -/
def regexOf (text : Text) (start position : Nat) : Option Nat → Outcome (Text × Nat)
  | none => raise .unterminatedRegex start
  | some count =>
      let ending := position + count + ((text.drop (position + count)).takeWhile isAsciiLower).length
      .returned ((text.drop start).take (ending - start), ending)

theorem regexOf_add (taken : Nat) (size : Option Nat) :
    regexOf text start position (size.map (· + taken)) = regexOf text start (position + taken) size := by
  cases size with
  | none => rfl
  | some count =>
    have same : position + (count + taken) = position + taken + count := by omega
    simp only [Option.map_some, regexOf, same]

theorem takeTurns_regex (count : Nat) (inClass : Bool) (position : Nat) :
    takeTurns (regexTurn text start) count inClass position = .unfinished ∨
      takeTurns (regexTurn text start) count inClass position =
        regexOf text start position (regexLength? inClass (text.drop position)) := by
  induction count generalizing inClass position with
  | zero => exact .inl rfl
  | succ count ih =>
    rw [takeTurns, regexTurn]
    cases found : text[position]? with
    | none =>
      rw [drop_of_none found]
      exact .inr rfl
    | some c =>
      rw [drop_of_getElem? found]
      unfold regexLength?
      dsimp only
      split
      · cases escaped : text[position + 1]? with
        | none =>
          -- The position may be past the end now, where the loop stops.
          have past := List.getElem?_eq_none_iff.mp escaped
          have ended : text.drop (position + 2) = [] := List.drop_eq_nil_of_le (by omega)
          rw [drop_of_none escaped]
          have last := ih inClass (position + 2)
          rwa [ended] at last
        | some d =>
          rw [drop_of_getElem? escaped]
          dsimp only
          rw [regexOf_add]
          exact ih _ _
      split
      · exact .inr rfl
      split
      · rw [regexOf_add]
        exact ih _ _
      split
      · rw [regexOf_add]
        exact ih _ _
      split
      · exact .inr rfl
      · rw [regexOf_add]
        exact ih _ _

theorem agrees_regex (within : position ≤ text.length) :
    Agrees text (Reads text) (regexFrom text position) (readRegex (text.drop position)) := by
  unfold regexFrom readRegex repeatTurns
  rw [List.drop_drop]
  rcases takeTurns_regex (text.length - (position + 1) + 1) false (position + 1) with endless | same
  · rw [endless]
    exact .unfinished _
  · rw [same]
    cases regexLength? false (text.drop (position + 1)) with
    | none => exact .fault within rfl
    | some n =>
      refine .returned ?_
      have flags : position + (n + 1) = position + 1 + n := by omega
      have size (m : Nat) : position + 1 + n + m - position = n + 1 + m := by omega
      have ending (m : Nat) : position + (n + 1 + m) = position + 1 + n + m := by omega
      dsimp only [Reads]
      rw [List.drop_drop, flags, size, List.drop_drop, ending]

/-! ## Scalars and keys -/

/-- A number that cannot be read is blamed on no place. -/
theorem numberOf_placeless {token : Text} {failure : Failure} (failed : numberOf token = .error failure) :
    ∃ count, failure = .tooManyDigits count := by
  have decimal {negative : Bool} {signed : Nat → Json} {body : Text}
      (failed : numberOf.decimal negative signed body = .error failure) :
      ∃ count, failure = .tooManyDigits count := by
    unfold numberOf.decimal at failed
    split at failed
    · cases failed
    split at failed
    · exact ⟨_, (Except.error.inj failed).symm⟩
    · cases failed
  unfold numberOf at failed
  dsimp only at failed
  split at failed
  · split at failed
    · cases failed
    · exact decimal failed
  · exact decimal failed

theorem agrees_number (token : Text) : Agrees text (· = ·) (.ofExcept 0 (numberOf token)) (numberOf token) := by
  cases number : numberOf token with
  | ok v => exact .returned rfl
  | error failure =>
    obtain ⟨count, rfl⟩ := numberOf_placeless number
    exact .raised (.tooManyDigits count)

theorem agrees_scalar (within : position ≤ text.length) :
    Agrees text (Reads text) (scalarFrom text position) (readScalar (text.drop position)) := by
  unfold scalarFrom readScalar
  cases found : text[position]? with
  | none =>
    have ended := drop_of_none found
    rw [ended]
    exact .fault within ended.symm
  | some c =>
    have whole := drop_of_getElem? found
    rw [whole]
    dsimp only
    rw [← whole]
    split
    next isQuote =>
      refine (agrees_text found).bind ?_
      rintro ⟨t, after⟩ _ _ rfl
      exact .returned rfl
    split
    · refine (agrees_regex within).bind ?_
      rintro ⟨t, after⟩ _ _ rfl
      exact .returned rfl
    split
    · refine (agrees_number _).bind fun v _ _ same => ?_
      obtain rfl := same
      refine .returned ?_
      rw [List.drop_drop]
      rfl
    · cases word? (identifier (text.drop position)) with
      | none => exact .fault within rfl
      | some v =>
        refine .returned ?_
        rw [List.drop_drop]
        rfl

theorem agrees_key (within : position ≤ text.length) :
    Agrees text (Reads text) (keyFrom text position) (readKey (text.drop position)) := by
  unfold keyFrom readKey
  cases found : text[position]? with
  | none =>
    have ended := drop_of_none found
    rw [ended]
    exact .fault within ended.symm
  | some c =>
    have whole := drop_of_getElem? found
    rw [whole]
    dsimp only
    rw [← whole]
    split
    · exact agrees_text found
    generalize (if (identifier (text.drop position)).isEmpty then numberLength (text.drop position)
      else (identifier (text.drop position)).length) = size
    split
    · exact .fault within rfl
    · refine .returned ?_
      rw [List.drop_drop]
      rfl

/-! ## Values -/

section

variable {σ : Type} {turn : σ → Nat → Outcome (Turn σ α)} {gathered : σ} {a : α} {after : Nat}

theorem agrees_lastTurn (turned : turn gathered position = .returned (.last a after)) :
    Agrees text (Reads text) (takeTurns turn count gathered position) (.ok (a, text.drop after)) := by
  cases count with
  | zero => exact .unfinished _
  | succ count =>
    rw [takeTurns, turned]
    exact .returned rfl

/-- What follows an item, in a loop that takes at most `count` more turns. At the closing mark readers of what is left
stop at once, and the loop takes its last turn. -/
theorem agrees_separator {fault : Fault} {g : Text → Except Failure (α × Text)} (within : position ≤ text.length)
    (comma : ∀ next, position < next → next ≤ text.length →
      Agrees text (Reads text) (takeTurns turn count gathered next) (g (0x2C :: text.drop next)))
    (closed : ∀ last, skipFrom text last = .returned last → text[last]? = some c →
      turn gathered last = .returned (.last a (last + 1)))
    (ends : ∀ rest, g (c :: rest) = .ok (a, rest))
    (other : ∀ rest, (∀ s, rest ≠ 0x2C :: s) → (∀ s, rest ≠ c :: s) → g rest = failAt fault rest) :
    Agrees text (Reads text)
      (separatorFrom text c fault gathered position >>= Turn.follow (takeTurns turn count))
      (skip (text.drop position) >>= g) := by
  refine (agrees_skip within).step ?_
  rintro last _ skipped ⟨blank, bound, rfl⟩
  split
  next isComma =>
    have room := lt_of_getElem? isComma
    rw [drop_of_getElem? isComma]
    exact comma (last + 1) (by omega) room
  next noComma =>
    split
    next isClosed =>
      rw [drop_of_getElem? isClosed, ends]
      exact agrees_lastTurn (closed last (skipFrom_again skipped) isClosed)
    next noClosed =>
      rw [other _ (fun _ left => noComma (getElem?_of_drop left)) fun _ left => noClosed (getElem?_of_drop left)]
      exact .fault bound rfl

end

section

variable {value : Nat → Outcome (Json × Nat)}

theorem fieldTurn_of_closed {read : List (Text × Json)} (stop : skipFrom text position = .returned position)
    (closed : text[position]? = some 0x7D) :
    fieldTurn text value read position =
      .returned (.last (.object (Json.ofWrites read.reverse)) (position + 1)) := by
  rw [fieldTurn, stop, Outcome.returned_bind, if_pos closed]
  rfl

theorem itemTurn_of_closed {read : List Json} (stop : skipFrom text position = .returned position)
    (closed : text[position]? = some 0x5D) :
    itemTurn text value read position = .returned (.last (.list read.reverse) (position + 1)) := by
  rw [itemTurn, stop, Outcome.returned_bind, if_pos closed]
  rfl

/-- Values are read as by the reader of what is left, with enough fuel. -/
def ReadsValues (text : Text) (value : Nat → Outcome (Json × Nat)) : Prop :=
  ∀ later fuel, later ≤ text.length → 2 * (text.length - later) + 2 ≤ fuel →
    Agrees text (Reads text) (value later) (readValue fuel (text.drop later))

theorem agrees_fields (forward : Forward text value) (each : ReadsValues text value)
    (within : position ≤ text.length) (enough : 2 * (text.length - position) + 1 ≤ fuel)
    {read : List (Text × Json)} :
    Agrees text (Reads text) (takeTurns (fieldTurn text value) count read position)
      (readFields fuel read (text.drop position)) := by
  induction count generalizing position fuel read with
  | zero => exact .unfinished _
  | succ count ih =>
    obtain ⟨fuel, rfl⟩ : ∃ n, fuel = n + 1 := ⟨fuel - 1, by omega⟩
    rw [takeTurns, fieldTurn, readFields]
    refine (agrees_skip within).step ?_
    rintro first _ - ⟨blank, bound, rfl⟩
    by_cases closed : text[first]? = some 0x7D
    · rw [if_pos closed, drop_of_getElem? closed]
      exact .returned rfl
    rw [if_neg closed]
    split
    next rest left => exact absurd (getElem?_of_drop left) closed
    refine (agrees_key bound).step ?_
    rintro ⟨name, keyed⟩ _ key rfl
    have named := keyFrom_forward _ _ _ key
    refine (agrees_expect named.2).step ?_
    rintro inner _ - ⟨marked, inside, rfl⟩
    refine (each _ _ inside (by omega)).step ?_
    rintro ⟨item, ending⟩ _ valued rfl
    have moved := forward _ _ _ valued
    dsimp only
    refine agrees_separator moved.2 ?_ (fun last => fieldTurn_of_closed) ?_ ?_
    · exact fun next later bound' => ih bound' (by omega)
    · exact fun _ => rfl
    · intro rest noComma noClosed
      split
      · exact absurd rfl (noComma _)
      · exact absurd rfl (noClosed _)
      · rfl

theorem agrees_items (forward : Forward text value) (each : ReadsValues text value)
    (within : position ≤ text.length) (enough : 2 * (text.length - position) + 3 ≤ fuel) {read : List Json} :
    Agrees text (Reads text) (takeTurns (itemTurn text value) count read position)
      (readItems fuel read (text.drop position)) := by
  induction count generalizing position fuel read with
  | zero => exact .unfinished _
  | succ count ih =>
    obtain ⟨fuel, rfl⟩ : ∃ n, fuel = n + 1 := ⟨fuel - 1, by omega⟩
    rw [takeTurns, itemTurn, readItems]
    refine (agrees_skip within).step ?_
    rintro first _ - ⟨blank, bound, rfl⟩
    by_cases closed : text[first]? = some 0x5D
    · rw [if_pos closed, drop_of_getElem? closed]
      exact .returned rfl
    by_cases hole : text[first]? = some 0x2C
    · have whole := drop_of_getElem? hole
      rw [if_neg closed, if_pos hole, whole]
      exact .fault bound whole.symm
    rw [if_neg closed, if_neg hole]
    split
    next rest left => exact absurd (getElem?_of_drop left) closed
    next rest left => exact absurd (getElem?_of_drop left) hole
    refine (each _ _ bound (by omega)).step ?_
    rintro ⟨item, ending⟩ _ valued rfl
    have moved := forward _ _ _ valued
    dsimp only
    refine agrees_separator moved.2 ?_ (fun last => itemTurn_of_closed) ?_ ?_
    · exact fun next later bound' => ih bound' (by omega)
    · exact fun _ => rfl
    · intro rest noComma noClosed
      split
      · exact absurd rfl (noComma _)
      · exact absurd rfl (noClosed _)
      · rfl

theorem agrees_object (forward : Forward text value) (each : ReadsValues text value)
    (within : position ≤ text.length) (enough : 2 * (text.length - position) + 1 ≤ fuel) :
    Agrees text (Reads text) (objectFrom text value position)
      (expect 0x7B (text.drop position) >>= readFields fuel []) := by
  refine (agrees_expect within).bind ?_
  rintro inner _ - ⟨opened, inside, rfl⟩
  exact agrees_fields forward each inside (by omega)

theorem agrees_array (forward : Forward text value) (each : ReadsValues text value)
    (within : position ≤ text.length) (enough : 2 * (text.length - position) + 1 ≤ fuel) :
    Agrees text (Reads text) (arrayFrom text value position)
      (expect 0x5B (text.drop position) >>= readItems fuel []) := by
  refine (agrees_expect within).bind ?_
  rintro inner _ - ⟨opened, inside, rfl⟩
  exact agrees_items forward each inside (by omega)

end

/-- Where a mark stands, what is expected after blanks is what stands there. -/
theorem expect_mark (solid : Solid (c :: rest)) : expect c (c :: rest) = .ok rest := by
  rw [expect, skip_solid solid]
  exact if_pos rfl

theorem agrees_value (text : Text) (depth : Nat) : ReadsValues text (valueWithin text depth) := by
  induction depth with
  | zero => exact fun _ _ _ _ => .unfinished _
  | succ depth ih =>
    intro position fuel within enough
    obtain ⟨fuel, rfl⟩ : ∃ n, fuel = n + 1 := ⟨fuel - 1, by omega⟩
    rw [valueWithin, readValue]
    refine (agrees_skip within).bind ?_
    rintro start _ - ⟨blank, bound, rfl⟩
    have forward := (valueWithin_passes text depth).forward
    split
    next opened =>
      have object := agrees_object forward ih bound (show 2 * (text.length - start) + 1 ≤ fuel by omega)
      rw [drop_of_getElem? opened] at object ⊢
      rwa [expect_mark (solid_cons (by decide) (by decide) _)] at object
    next opened =>
      have array := agrees_array forward ih bound (show 2 * (text.length - start) + 1 ≤ fuel by omega)
      rw [drop_of_getElem? opened] at array ⊢
      rwa [expect_mark (solid_cons (by decide) (by decide) _)] at array
    next noBrace noBracket =>
      split
      next rest left => exact absurd (getElem?_of_drop left) noBrace
      next rest left => exact absurd (getElem?_of_drop left) noBracket
      next => exact agrees_scalar bound

theorem agrees_initializer (within : position ≤ text.length) :
    Agrees text (· = ·) (initializerFrom text position) (readInitializer (text.drop position)) := by
  have size : (text.drop position).length = text.length - position := List.length_drop
  refine (agrees_value _ _ _ _ within (by omega)).bind ?_
  rintro ⟨v, ending⟩ _ valued rfl
  have moved := (valueWithin_passes _ _).forward _ _ _ valued
  refine (agrees_skip moved.2).bind ?_
  rintro last _ - ⟨blank, bound, rfl⟩
  have passed : (text.drop ending).length - (text.drop last).length = last - ending := by
    simp only [List.length_drop]
    omega
  dsimp only
  rw [passed]
  cases found : text[last]? with
  | none =>
    rw [drop_of_none found]
    exact .returned rfl
  | some c =>
    have whole := drop_of_getElem? found
    rw [whole]
    dsimp only
    split
    · exact .returned rfl
    · exact .fault bound whole.symm

/-! ## Outcomes -/

/-- What has ended comes to what reading what is left comes to. -/
theorem Agrees.eq_map {x : Outcome α} {y : Except Failure β} {f : β → α} (agrees : Agrees text same x y)
    (ends : x ≠ .unfinished) (told : ∀ a b, x = .returned a → same a b → f b = a) :
    x = f <$> .ofExcept text.length y := by
  cases agrees with
  | returned both => exact congrArg Outcome.returned (told _ _ rfl both).symm
  | raised failure => rfl
  | unfinished => exact absurd rfl ends

end UrlRules.Script
