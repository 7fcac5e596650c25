import UrlRules.Proofs.Json.Grammar

/-!
# Reading documents

The reader takes every document of the grammar, and the halves of surrogate pairs as one character
(`read_of_document`). Numbers are read part by part.
-/
namespace UrlRules.Json

open Text

variable {body digits fraction places exponent token t rest : Text} {pieces : List Piece} {c : Nat} {v : Json}
  {minus : Bool} {power : Int}

/-! ## Texts -/

theorem fourHex?_of_digits (hex : Digits hexValue? 16 digits c) (size : digits.length = 4) :
    fourHex? digits = some c := by
  obtain ⟨-, values, read, value⟩ := hex
  rw [fourHex?, if_pos size, read, Option.map_some, value]

theorem shortEscape?_of_listed : ∀ p ∈ letterEscapes, shortEscape? p.1 = some p.2 ∧ p.1 ≠ 0x75 := by decide

/-- A piece that is no first half before a second one stands on its own. -/
theorem joined_cons {p : Piece} (apart : ∀ q ∈ pieces.head?, ¬Halves p q) :
    joined (p :: pieces) = p.c :: joined pieces := by
  cases pieces with
  | nil => rfl
  | cons q pieces => rw [joined, if_neg (apart q rfl)]

/-- No second half is found where none is written. -/
theorem secondHalf?_spelling (spelling : Spelling body pieces) (rest : Text)
    (other : ∀ q ∈ pieces.head?, q.byNumber = true → isLowSurrogate q.c = false) :
    secondHalf? (body ++ 0x22 :: rest) = .ok none := by
  cases spelling with
  | nil => exact secondHalf?_of_take (by simp)
  | itself printable apart others =>
    refine secondHalf?_of_take fun same => apart ?_
    obtain ⟨rfl, -⟩ := List.cons.inj same
    decide
  | @letter letter c body pieces listed others =>
    have plain := (shortEscape?_of_listed _ listed).2
    exact secondHalf?_of_take (by simpa using plain)
  | @number digits body c pieces hex size others =>
    have more : body ++ 0x22 :: rest ≠ [] := by simp
    have second := secondHalf?_of_fourHex? (fourHex?_of_digits hex size) more
    rw [other _ rfl rfl] at second
    simpa using second

/-- Halves are spelled by the escapes of both. -/
theorem Spelling.halves (spelling : Spelling body pieces) {q : Piece} (first : q ∈ pieces.head?)
    (numbered : q.byNumber = true) : ∃ digits others, ∃ rest : List Piece, fourHex? digits = some q.c ∧
      body = 0x5C :: 0x75 :: (digits ++ others) ∧ pieces = q :: rest ∧ Spelling others rest := by
  cases spelling with
  | nil => cases first
  | itself =>
    obtain rfl := Option.some.inj first
    cases numbered
  | letter =>
    obtain rfl := Option.some.inj first
    cases numbered
  | number hex size others =>
    obtain rfl := Option.some.inj first
    exact ⟨_, _, _, fourHex?_of_digits hex size, rfl, rfl, others⟩

/-- What is spelled is read piece by piece, or two pieces at once. -/
theorem readCharacters_spelling (opened fuel : Nat) (read rest : Text) (spelling : Spelling body pieces)
    (enough : body.length < fuel) :
    readCharacters opened fuel read (body ++ 0x22 :: rest) = .ok (read.reverse ++ joined pieces, rest) := by
  induction fuel using Nat.strongRecOn generalizing body pieces read with
  | ind fuel ih =>
    obtain ⟨fuel, rfl⟩ : ∃ n, fuel = n + 1 := ⟨fuel - 1, by omega⟩
    cases spelling with
    | nil => simp [readCharacters, joined]
    | @itself c body pieces printable apart others =>
      simp only [List.length_cons] at enough
      have step := (spells_itself (by simpa using apart) printable).2 opened fuel read (body ++ 0x22 :: rest) (by simp)
      have alone : ∀ q ∈ pieces.head?, ¬Halves ⟨c, false⟩ q := fun q _ halves => by cases halves.1
      rw [List.cons_append, ← List.singleton_append, step, ih fuel (by omega) (c :: read) others (by omega),
        joined_cons alone]
      simp
    | @letter letter c body pieces listed others =>
      simp only [List.length_cons] at enough
      obtain ⟨short, other⟩ := shortEscape?_of_listed _ listed
      have step := (spells_short short other).2 opened fuel read (body ++ 0x22 :: rest) (by simp)
      have alone : ∀ q ∈ pieces.head?, ¬Halves ⟨c, false⟩ q := fun q _ halves => by cases halves.1
      rw [show (0x5C :: letter :: body) ++ 0x22 :: rest = [0x5C, letter] ++ (body ++ 0x22 :: rest) from rfl, step,
        ih fuel (by omega) (c :: read) others (by omega), joined_cons alone]
      simp
    | @number digits body c pieces hex size others =>
      simp only [List.length_cons, List.length_append] at enough
      have four := fourHex?_of_digits hex size
      by_cases paired : ∃ q ∈ pieces.head?, Halves ⟨c, true⟩ q
      · -- Both halves are read with the escape of the first one.
        obtain ⟨q, first, halves⟩ := paired
        obtain ⟨digits', body, pieces, four', rfl, rfl, inner⟩ := others.halves first halves.2.1
        have step := (spells_pair four four' halves.2.2.1 halves.2.2.2).2 opened fuel read (body ++ 0x22 :: rest)
          (by simp)
        simp only [List.length_cons, List.length_append] at enough
        simp only [List.cons_append, List.append_assoc] at step ⊢
        rw [step, ih fuel (by omega) _ inner (by omega), joined, if_pos halves]
        simp
      · have alone : ∀ q ∈ pieces.head?, ¬Halves ⟨c, true⟩ q := fun q first halves => paired ⟨q, first, halves⟩
        have single : isHighSurrogate c = true → secondHalf? (body ++ 0x22 :: rest) = .ok none := fun high =>
          secondHalf?_spelling others rest fun q first numbered => by
            rw [← Bool.not_eq_true]
            exact fun low => alone q first ⟨rfl, numbered, high, low⟩
        simp only [List.cons_append, List.append_assoc]
        rw [readCharacters_single four (by simp) single, ih fuel (by omega) (c :: read) others (by omega),
          joined_cons alone]
        simp

theorem readText_spelling (spelling : Spelling body pieces) (rest : Text) :
    readText (body ++ 0x22 :: rest) = .ok (joined pieces, rest) := by
  unfold readText
  rw [readCharacters_spelling _ _ _ _ spelling]
  · simp
  · simp only [List.length_append, List.length_cons]
    omega

/-! ## Numbers -/

/-- No digit, point or exponent starts here. -/
theorem Ends.apart (ends : Ends rest) : ∀ c ∈ rest.head?, isAsciiDigit c = false ∧ c ∉ [0x2E, 0x65, 0x45] := by
  intro c first
  have each : ∀ c ∈ [0x20, 0x09, 0x0A, 0x0D, 0x2C, 0x5D, 0x7D], isAsciiDigit c = false ∧ c ∉ [0x2E, 0x65, 0x45] := by
    decide
  refine each c ?_
  rcases ends c first with gap | mark
  · simp only [isGap, Bool.or_eq_true, beq_iff_eq] at gap
    rcases gap with ((rfl | rfl) | rfl) | rfl <;> decide
  · revert mark
    simp only [List.mem_cons, List.not_mem_nil, or_false]
    exact fun mark => .inr (.inr (.inr (.inr mark)))

theorem takeWhile_run (run : Run digits) (after : ∀ c ∈ rest.head?, isAsciiDigit c = false) :
    (digits ++ rest).takeWhile isAsciiDigit = digits := takeWhile_append_of_stop run.2 after

theorem wholeDigits_append (whole : Whole digits) (after : ∀ c ∈ rest.head?, isAsciiDigit c = false) :
    wholeDigits (digits ++ rest) = digits := by
  cases whole with
  | zero => rfl
  | run run first =>
    obtain ⟨c, others, rfl⟩ := List.exists_cons_of_ne_nil run.1
    have taken := takeWhile_run run after
    unfold wholeDigits
    split
    next same => exact absurd (List.cons.inj same).1 (by simpa using first)
    next => exact taken

theorem Whole.isRun (whole : Whole digits) : Run digits := by
  cases whole with
  | zero => exact ⟨by simp, by decide⟩
  | run run => exact run

theorem fraction?_append (part : Fraction fraction places)
    (after : ∀ c ∈ rest.head?, isAsciiDigit c = false ∧ c ≠ 0x2E) :
    ∃ f : Option Text, fraction? (fraction ++ rest) = f.map (·, rest) ∧ f.getD [] = places ∧
      (f = none ↔ fraction = []) := by
  cases part with
  | none =>
    refine ⟨none, ?_, rfl, by simp⟩
    cases rest with
    | nil => rfl
    | cons c rest => simp [fraction?, (after c rfl).2]
  | places run =>
    have taken := takeWhile_run run fun c first => (after c first).1
    exact ⟨some places, by simp [fraction?, taken, run.1], rfl, by simp⟩

/-- The power of ten that a sign and digits give. -/
def powerOf : Option (Bool × Text) → Int
  | some (minus, digits) => signed minus (decimalValue digits)
  | none => 0

theorem exponent?_append (scale : Power exponent power) (ends : Ends rest) :
    ∃ e : Option (Bool × Text), exponent? (exponent ++ rest) = e.map (·, rest) ∧ powerOf e = power ∧
      (e = none ↔ exponent = []) := by
  have after : ∀ c ∈ rest.head?, isAsciiDigit c = false := fun c first => (ends.apart c first).1
  cases scale with
  | none =>
    refine ⟨none, ?_, rfl, by simp⟩
    cases rest with
    | nil => rfl
    | cons c rest =>
      have other := (ends.apart c rfl).2
      simp only [List.mem_cons, List.not_mem_nil, or_false, not_or] at other
      simp [exponent?, other]
  | @plain letter digits isLetter run =>
    have taken := takeWhile_run run after
    refine ⟨some (false, digits), ?_, rfl, by simp⟩
    obtain ⟨c, others, rfl⟩ := List.exists_cons_of_ne_nil run.1
    have digit := run.2 c (List.mem_cons_self ..)
    have minus : c ≠ 0x2D := by rintro rfl; cases digit
    have plus : c ≠ 0x2B := by rintro rfl; cases digit
    rw [List.cons_append] at taken
    simp [exponent?, List.mem_pair.mp isLetter, taken, minus, plus]
  | @plus letter digits isLetter run =>
    refine ⟨some (false, digits), ?_, rfl, by simp⟩
    simp [exponent?, List.mem_pair.mp isLetter, takeWhile_run run after, run.1]
  | @minus letter digits isLetter run =>
    refine ⟨some (true, digits), ?_, rfl, by simp⟩
    simp [exponent?, List.mem_pair.mp isLetter, takeWhile_run run after, run.1]

theorem numberOf_marked {f : Option Text} {e : Option (Bool × Text)} (marked : f ≠ none ∨ e ≠ none) :
    numberOf minus digits f e = .ok (.float (Binary64.ofDecimal minus (decimalValue (digits ++ f.getD []))
      (powerOf e - (f.getD []).length))) := by
  rcases f with _ | f <;> rcases e with _ | ⟨_ | _, digits⟩ <;> first | rfl | simp at marked

/-- What is done after the sign of a number. -/
def readUnsigned (s : Text) (minus : Bool) (body : Text) : Except ReadFailure (Json × Text) :=
  let whole := wholeDigits body
  if whole.isEmpty then failAt .expectedValue s
  else
    let rest := body.drop whole.length
    let (fraction, rest) :=
      match fraction? rest with
      | some (digits, rest) => (some digits, rest)
      | none => (none, rest)
    let (exponent, rest) :=
      match exponent? rest with
      | some (parts, rest) => (some parts, rest)
      | none => (none, rest)
    match numberOf minus whole fraction exponent with
    | .ok n => .ok (n, rest)
    | .error fault => failAt fault s

theorem readNumber_signed (minus : Bool) (start : s.head? ≠ some 0x2D) :
    readNumber (minusSign minus ++ s) = readUnsigned (minusSign minus ++ s) minus s := by
  cases minus with
  | true => rfl
  | false =>
    cases s with
    | nil => rfl
    | cons c s =>
      unfold readNumber
      split
      next negative body same =>
        split at same
        next first => exact absurd (List.cons.inj first).1 (by simpa using start)
        next =>
          obtain ⟨rfl, rfl⟩ := Prod.mk.inj same
          rfl

/-- A number is read part by part. -/
theorem readUnsigned_parts {s₁ s₂ s₃ : Text} {f : Option Text} {e : Option (Bool × Text)} (whole : Whole digits)
    (after : ∀ c ∈ s₁.head?, isAsciiDigit c = false)
    (part : fraction? s₁ = f.map (·, s₂)) (same : f = none → s₂ = s₁)
    (scale : exponent? s₂ = e.map (·, s₃)) (same' : e = none → s₃ = s₂) (value : numberOf minus digits f e = .ok v) :
    readUnsigned s minus (digits ++ s₁) = .ok (v, s₃) := by
  have taken := wholeDigits_append whole after
  have some : digits.isEmpty = false := by simpa using whole.isRun.1
  unfold readUnsigned
  simp only [taken, some, List.drop_left, part, Bool.false_eq_true, if_false]
  cases f with
  | none =>
    obtain rfl := same rfl
    cases e with
    | none =>
      obtain rfl := same' rfl
      simp [scale, value]
    | some e => simp [scale, value]
  | some f =>
    cases e with
    | none =>
      obtain rfl := same' rfl
      simp [scale, value]
    | some e => simp [scale, value]

/-- Nothing that starts a value stands here: a number does not start with a minus sign twice. -/
theorem Whole.head (whole : Whole digits) (rest : Text) : (digits ++ rest).head? ≠ some 0x2D := by
  obtain ⟨c, others, rfl⟩ := List.exists_cons_of_ne_nil whole.isRun.1
  have digit := whole.isRun.2 c (List.mem_cons_self ..)
  rintro same
  obtain rfl := Option.some.inj same
  cases digit

theorem readNumber_number (number : NumberText token v) (ends : Ends rest) :
    readNumber (token ++ rest) = .ok (v, rest) := by
  have apart : ∀ c ∈ rest.head?, isAsciiDigit c = false ∧ c ≠ 0x2E := fun c first =>
    ⟨(ends.apart c first).1, fun point => (ends.apart c first).2 (by simp [point])⟩
  cases number with
  | @integer minus digits whole short =>
    have value : numberOf minus digits none none = .ok (.int (signed minus (decimalValue digits))) := by
      rw [numberOf, if_neg (Nat.not_lt.mpr short)]
      rfl
    obtain ⟨f, part, -, absent⟩ := fraction?_append .none apart
    obtain ⟨e, scale, -, absent'⟩ := exponent?_append .none ends
    obtain rfl := absent.mpr rfl
    obtain rfl := absent'.mpr rfl
    rw [List.append_assoc, readNumber_signed minus (whole.head rest)]
    exact readUnsigned_parts whole (fun c first => (apart c first).1) part (fun _ => rfl) scale (fun _ => rfl) value
  | @decimal minus digits fraction places exponent power whole part scale marked =>
    -- What follows the digits, and what follows the fraction, continues neither.
    have after : ∀ c ∈ (exponent ++ rest).head?, isAsciiDigit c = false ∧ c ≠ 0x2E := by
      have letters : ∀ c ∈ [0x65, 0x45], isAsciiDigit c = false ∧ c ≠ 0x2E := by decide
      intro c first
      cases scale with
      | none => exact apart c first
      | plain isLetter => exact letters c (Option.some.inj first ▸ isLetter)
      | plus isLetter => exact letters c (Option.some.inj first ▸ isLetter)
      | minus isLetter => exact letters c (Option.some.inj first ▸ isLetter)
    have after' : ∀ c ∈ (fraction ++ (exponent ++ rest)).head?, isAsciiDigit c = false := by
      intro c first
      cases part with
      | none => exact (after c first).1
      | places run =>
        obtain rfl := Option.some.inj first
        decide
    obtain ⟨f, first, rfl, absent⟩ := fraction?_append part after
    obtain ⟨e, second, rfl, absent'⟩ := exponent?_append scale ends
    have value : numberOf minus digits f e = .ok (.float (Binary64.ofDecimal minus (decimalValue (digits ++ f.getD []))
        (powerOf e - (f.getD []).length))) := numberOf_marked (by rwa [Ne, Ne, absent, absent'])
    simp only [List.append_assoc]
    rw [readNumber_signed minus (whole.head _)]
    refine readUnsigned_parts whole after' first (fun none => ?_) second (fun none => ?_) value
    · rw [absent.mp none, List.nil_append]
    · rw [absent'.mp none, List.nil_append]

/-! ## Values -/

theorem opening_of_digit (digit : isAsciiDigit c = true) : c ∈ opening := by
  have each : ∀ c < 0x3A, isAsciiDigit c = true → c ∈ opening := by decide
  simp only [isAsciiDigit, Bool.and_eq_true, decide_eq_true_eq] at digit
  exact each c (Nat.lt_succ_of_le digit.2) (by simpa [isAsciiDigit] using digit)

theorem NumberText.start (number : NumberText token v) :
    ∃ minus d others, token = minusSign minus ++ d :: others ∧ isAsciiDigit d = true := by
  have start (minus : Bool) {digits : Text} (whole : Whole digits) (rest : Text) :
      ∃ minus' d others, minusSign minus ++ (digits ++ rest) = minusSign minus' ++ d :: others ∧
        isAsciiDigit d = true := by
    obtain ⟨d, others, rfl⟩ := List.exists_cons_of_ne_nil whole.isRun.1
    exact ⟨minus, d, _, rfl, whole.isRun.2 d (List.mem_cons_self ..)⟩
  cases number with
  | @integer minus digits whole =>
    have starts := start minus whole []
    rwa [List.append_nil] at starts
  | decimal whole => exact start _ whole _

/-- A number starts no word. -/
theorem word?_number (number : NumberText token v) (rest : Text) : word? (token ++ rest) = none := by
  obtain ⟨minus, d, others, rfl, digit⟩ := number.start
  have other : ∀ c ∈ [0x6E, 0x74, 0x66, 0x4E, 0x49, 0x2D], c ≠ d := by
    rintro c member rfl
    have each : ∀ c ∈ [0x6E, 0x74, 0x66, 0x4E, 0x49, 0x2D], isAsciiDigit c = false := by decide
    rw [each c member] at digit
    cases digit
  simp only [List.mem_cons, List.not_mem_nil, or_false, forall_eq_or_imp, forall_eq] at other
  cases minus <;> simp [word?, words, minusSign, Text.of, dropLead?, other]

theorem readValue_number (number : NumberText token v) (ends : Ends rest) (fuel : Nat) :
    readValue (fuel + 1) (token ++ rest) = .ok (v, rest) := by
  have read := readNumber_number number ends
  have none := word?_number number rest
  obtain ⟨minus, d, others, rfl, digit⟩ := number.start
  obtain ⟨c, more, same, other⟩ : ∃ c more, minusSign minus ++ d :: others ++ rest = c :: more ∧
      c ≠ 0x22 ∧ c ≠ 0x7B ∧ c ≠ 0x5B := by
    cases minus with
    | true => exact ⟨_, _, rfl, by decide⟩
    | false =>
      refine ⟨d, others ++ rest, rfl, ?_, ?_, ?_⟩ <;>
      · rintro rfl
        cases digit
  rw [same] at read none ⊢
  simp [readValue, other, none, read]

theorem NumberText.taken (number : NumberText token v) : TakenScalar v token := by
  refine ⟨?_, fun fuel rest ends => readValue_number number ends fuel⟩
  obtain ⟨minus, d, others, rfl, digit⟩ := number.start
  cases minus with
  | true => exact ⟨_, by decide, _, rfl⟩
  | false => exact ⟨_, opening_of_digit digit, _, rfl⟩

mutual

/-- Whatever writes a tree is taken for its value. -/
theorem Writes.taken : ∀ {tree : Tree} {t : Text}, Writes tree t → Taken (tree.value joined) t
  | _, _, .null => .scalar takenScalar_null
  | _, _, .true => .scalar takenScalar_true
  | _, _, .false => .scalar takenScalar_false
  | _, _, .number number => .scalar number.taken
  | _, _, .text spelling => .scalar (TakenText.scalar (readText_spelling spelling))
  | _, _, .noItems gap => .noItems gap
  | _, _, .list inside => .list inside.taken
  | _, _, .noFields gap => .noFields gap
  | _, _, .object inside => .object inside.taken

theorem WritesItems.taken :
    ∀ {items : List Tree} {t : Text}, WritesItems items t → TakenItems (itemValues joined items) t
  | _, _, .last before value after => .last before value.taken after
  | _, _, .more before value after rest => .more before value.taken after rest.taken

theorem WritesFields.taken : ∀ {fields : List (List Piece × Tree)} {t : Text}, WritesFields fields t →
    TakenFields (fieldValues joined fields) t
  | _, _, .last before key colon blank value after =>
    .last before (readText_spelling key) colon blank value.taken after
  | _, _, .more before key colon blank value after rest =>
    .more before (readText_spelling key) colon blank value.taken after rest.taken

end

/-- A document is read as the value of its tree. -/
theorem read_of_document {tree : Tree} (document : Document tree t) : read t = .ok (tree.value joined) := by
  obtain ⟨g, w, g', before, writes, after, rfl⟩ := document
  exact read_of_taken before writes.taken after

end UrlRules.Json
