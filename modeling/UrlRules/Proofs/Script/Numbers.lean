import UrlRules.Proofs.Script.Texts

/-!
# Numbers and identifiers in scripts

A token ends where a blank, a comment or a mark follows, or nothing (`Stops`). Up to there the readers take
the whole number (`numberLength_token`) and the whole identifier (`identifier_append`). An integer is
given by decimal digits, no more than can be read, or by hexadecimal ones (`IntegerToken`).
-/
namespace UrlRules.Script

open Text

variable {g s token name rest : Text} {c : Nat} {n : Nat} {value : Int}

/-! ## Where a token ends -/

/-- The marks that may follow a token: slash, comma, bracket, brace, colon and semicolon. -/
def marks : List CodePoint := [0x2F, 0x2C, 0x5D, 0x7D, 0x3A, 0x3B]

/-- Nothing that continues a number, an identifier or flags starts here. -/
def Stops (rest : Text) : Prop := ∀ c ∈ rest.head?, isBlank c = true ∨ c ∈ marks

theorem stops_nil : Stops [] := by simp [Stops]

theorem stops_mark (isMark : c ∈ marks) (rest : Text) : Stops (c :: rest) := by
  simp [Stops, isMark]

theorem Gap.stops (gap : Gap g) (stops : Stops s) : Stops (g ++ s) := by
  cases gap with
  | nil => exact stops
  | blank isBlank others => simp [Stops, isBlank]
  | line => exact stops_mark (by decide) _
  | block => exact stops_mark (by decide) _

/-- A character that continues no token. -/
def Apart (c : CodePoint) : Prop := isDigit c = false ∧ isIdentifierPart c = false ∧ c ≠ 0x2E

instance (c : CodePoint) : Decidable (Apart c) := inferInstanceAs (Decidable (_ ∧ _))

theorem apart_of_blank (blank : isBlank c = true) : Apart c := by
  have each : ∀ r ∈ blankRanges, ∀ c ∈ List.range' r.1 (r.2 + 1 - r.1), Apart c := by
    decide +kernel
  obtain ⟨r, member, lower, upper⟩ := inRanges_iff.mp blank
  refine each r member c (List.mem_range'_1.mpr ⟨lower, ?_⟩)
  exact Nat.lt_of_lt_of_le (Nat.lt_succ_of_le upper) (by omega)

theorem apart_of_mark : ∀ c ∈ marks, Apart c := by decide

theorem Stops.apart (stops : Stops rest) : ∀ c ∈ rest.head?, Apart c := fun c first =>
  (stops c first).elim apart_of_blank (apart_of_mark c)

/-! ## Numbers -/

/-- A sign, or none. -/
inductive Sign : Text → Prop
  | none : Sign []
  | plus : Sign [0x2B]
  | minus : Sign [0x2D]

/-- A run of decimal digits; there may be none. -/
def AllDigits (s : Text) : Prop := ∀ c ∈ s, isDigit c = true

/-- Digits with or without a point. There is at least one. -/
inductive Mantissa : Text → Prop
  | whole {digits : Text} (some : digits ≠ []) (all : AllDigits digits) : Mantissa digits
  | pointed {digits places : Text} (some : digits ++ places ≠ []) (all : AllDigits (digits ++ places)) :
      Mantissa (digits ++ 0x2E :: places)

/-- An exponent, or none. -/
inductive Exponent : Text → Prop
  | none : Exponent []
  | power {letter : CodePoint} {sign digits : Text} (isLetter : letter ∈ [0x65, 0x45])
      (signed : Sign sign) (some : digits ≠ []) (all : AllDigits digits) :
      Exponent (letter :: (sign ++ digits))

/-- A number: hexadecimal digits after their mark, or decimal digits with or without a point and an
exponent. -/
inductive NumberToken : Text → Prop
  | hex {sign digits : Text} {letter : CodePoint} (signed : Sign sign)
      (isLetter : letter ∈ [0x78, 0x58]) (some : digits ≠ [])
      (all : ∀ c ∈ digits, isHexDigit c = true) : NumberToken (sign ++ 0x30 :: letter :: digits)
  | decimal {sign mantissa exponent : Text} (signed : Sign sign) (number : Mantissa mantissa)
      (scale : Exponent exponent) : NumberToken (sign ++ (mantissa ++ exponent))

theorem digitRun_append {digits : Text} (all : AllDigits digits)
    (after : ∀ c ∈ rest.head?, isDigit c = false) : digitRun (digits ++ rest) = digits.length := by
  unfold digitRun
  rw [takeWhile_append_of_stop all after]

/-- How many signs start a text: one or none. -/
theorem countP_isSign {sign : Text} (signed : Sign sign) (unsigned : ∀ c ∈ s.head?, isSign c = false) :
    ((sign ++ s).take 1).countP isSign = sign.length := by
  cases signed with
  | none => cases s with
    | nil => rfl
    | cons c s => simp [unsigned c rfl]
  | plus => rfl
  | minus => rfl

/-- The number of hexadecimal digits after their mark; zero without a mark. -/
def hexLength (s : Text) : Nat :=
  match s with
  | 0x30 :: x :: rest => if x = 0x78 ∨ x = 0x58 then (rest.takeWhile isHexDigit).length else 0
  | _ => 0

/-- The length of the mantissa at the start of a text. -/
def mantissaLength (s : Text) : Nat :=
  match s.drop (digitRun s) with
  | 0x2E :: rest =>
      if digitRun s = 0 ∧ digitRun rest = 0 then 0 else digitRun s + 1 + digitRun rest
  | _ => digitRun s

theorem unsignedLength_eq (s : Text) :
    unsignedLength s =
      if hexLength s ≠ 0 then hexLength s + 2
      else if mantissaLength s = 0 then 0
      else mantissaLength s + exponentLength (s.drop (mantissaLength s)) := rfl

theorem mantissaLength_append {mantissa : Text} (number : Mantissa mantissa)
    (after : ∀ c ∈ rest.head?, isDigit c = false ∧ c ≠ 0x2E) :
    mantissaLength (mantissa ++ rest) = mantissa.length := by
  have stop : ∀ c ∈ rest.head?, isDigit c = false := fun c first => (after c first).1
  unfold mantissaLength
  cases number with
  | whole some all =>
    have run := digitRun_append all stop
    have pointless (places : Text) : rest ≠ 0x2E :: places := by
      rintro rfl
      exact (after 0x2E rfl).2 rfl
    simp [run]
  | @pointed digits places some all =>
    have point : ∀ c ∈ (0x2E :: (places ++ rest)).head?, isDigit c = false := by
      intro c first
      obtain rfl : 0x2E = c := by simpa using first
      decide
    have left := digitRun_append (fun c member => all c (List.mem_append_left _ member)) point
    have right := digitRun_append (fun c member => all c (List.mem_append_right _ member)) stop
    have empty : ¬(digits = [] ∧ places = []) := fun ⟨noDigits, noPlaces⟩ =>
      some (by rw [noDigits, noPlaces]; rfl)
    simp only [List.append_assoc, List.cons_append, left, List.drop_left, right]
    simp [empty]
    omega

theorem lt_of_isIdentifierPart (part : isIdentifierPart c = true) : c < 0x80 := by
  simp only [isIdentifierPart, isIdentifierStart, isAsciiLetter, isAsciiLower, isAsciiUpper,
    isAsciiDigit, Bool.or_eq_true, Bool.and_eq_true, decide_eq_true_eq, beq_iff_eq] at part
  have bound : ∀ last, last < 0x80 → c ≤ last → c < 0x80 := fun _ small le =>
    Nat.lt_of_le_of_lt le small
  rcases part with (((⟨-, le⟩ | ⟨-, le⟩) | rfl) | rfl) | ⟨-, le⟩
  · exact bound _ (by decide) le
  · exact bound _ (by decide) le
  · decide
  · decide
  · exact bound _ (by decide) le

/-- Digits and points are no signs and start no identifier. -/
theorem apart_of_digit (digit : isDigit c = true ∨ c = 0x2E) :
    c ∉ [0x2B, 0x2D] ∧ isIdentifierStart c = false := by
  have ascii : ∀ c < 0x80, isDigit c = true ∨ c = 0x2E →
      c ∉ [0x2B, 0x2D] ∧ isIdentifierStart c = false := by decide
  by_cases small : c < 0x80
  · exact ascii c small digit
  · constructor
    · intro sign
      rcases List.mem_pair.mp sign with rfl | rfl <;> exact small (by decide)
    · rw [← Bool.not_eq_true]
      exact fun start => small (lt_of_isIdentifierPart (by simp [isIdentifierPart, start]))

theorem isSign_eq_false (other : c ∉ [0x2B, 0x2D]) : isSign c = false := by
  simpa [isSign] using other

theorem isIdentifierPart_of_isHexDigit (hex : isHexDigit c = true) : isIdentifierPart c = true := by
  have each : ∀ c < 0x67, isHexDigit c = true → isIdentifierPart c = true := by decide
  exact each c (lt_of_isHexDigit hex) hex

theorem exponentLength_append {exponent : Text} (scale : Exponent exponent) (stops : Stops rest) :
    exponentLength (exponent ++ rest) = exponent.length := by
  have apart := stops.apart
  cases scale with
  | none =>
    cases rest with
    | nil => rfl
    | cons c rest =>
      obtain ⟨-, part, -⟩ := apart c rfl
      have noLetter : ¬(c = 0x65 ∨ c = 0x45) := by
        rintro (rfl | rfl) <;> exact absurd part (by decide)
      simp [exponentLength, noLetter]
  | @power letter sign digits isLetter signed some all =>
    have isLetter : letter = 0x65 ∨ letter = 0x45 := List.mem_pair.mp isLetter
    have run := digitRun_append all fun c first => (apart c first).1
    have unsigned : ∀ c ∈ (digits ++ rest).head?, isSign c = false := by
      cases digits with
      | nil => exact absurd rfl some
      | cons digit digits =>
        intro c first
        obtain rfl : digit = c := by simpa using first
        exact isSign_eq_false (apart_of_digit (.inl (all _ (List.mem_cons_self ..)))).1
    have one := countP_isSign signed unsigned
    have positive : digits.length ≠ 0 := fun zero => some (List.length_eq_zero_iff.mp zero)
    unfold exponentLength
    simp only [List.cons_append, List.append_assoc, if_pos isLetter, one, List.drop_left, run,
      if_neg positive, List.length_cons, List.length_append]
    omega

theorem hexLength_append {digits : Text} {letter : CodePoint} (isLetter : letter ∈ [0x78, 0x58])
    (all : ∀ c ∈ digits, isHexDigit c = true) (after : ∀ c ∈ rest.head?, isHexDigit c = false) :
    hexLength (0x30 :: letter :: (digits ++ rest)) = digits.length := by
  have isLetter : letter = 0x78 ∨ letter = 0x58 := List.mem_pair.mp isLetter
  simp [hexLength, isLetter, takeWhile_append_of_stop all after]

theorem hexLength_eq_zero
    (unmarked : ∀ letter rest, s = 0x30 :: letter :: rest → letter ∉ [0x78, 0x58]) :
    hexLength s = 0 := by
  unfold hexLength
  split
  next letter rest =>
    have unmarked := unmarked letter rest rfl
    rw [List.mem_pair] at unmarked
    rw [if_neg unmarked]
  next => rfl

theorem Mantissa.each {mantissa : Text} (number : Mantissa mantissa) :
    mantissa ≠ [] ∧ ∀ c ∈ mantissa, isDigit c = true ∨ c = 0x2E := by
  cases number with
  | whole some all => exact ⟨some, fun c member => .inl (all c member)⟩
  | pointed some all =>
    refine ⟨by simp, fun c member => ?_⟩
    rcases List.mem_append.mp member with left | right
    · exact .inl (all c (List.mem_append_left _ left))
    · rcases List.mem_cons.mp right with same | right
      · exact .inr same
      · exact .inl (all c (List.mem_append_right _ right))

/-- An exponent, or what follows a number without one, continues no mantissa and is no mark. -/
theorem Exponent.head_apart {exponent : Text} (scale : Exponent exponent) (stops : Stops rest) :
    ∀ c ∈ (exponent ++ rest).head?, isDigit c = false ∧ c ≠ 0x2E ∧ c ∉ [0x78, 0x58] := by
  intro c first
  cases scale with
  | none =>
    obtain ⟨digit, part, point⟩ := stops.apart c first
    refine ⟨digit, point, fun mark => ?_⟩
    rcases List.mem_pair.mp mark with rfl | rfl <;> exact absurd part (by decide)
  | power isLetter signed some all =>
    obtain rfl := Option.some.inj first
    rcases List.mem_pair.mp isLetter with rfl | rfl <;> decide

theorem unsignedLength_decimal {mantissa exponent : Text} (number : Mantissa mantissa)
    (scale : Exponent exponent) (stops : Stops rest) :
    unsignedLength (mantissa ++ (exponent ++ rest)) = (mantissa ++ exponent).length := by
  have apart := scale.head_apart stops
  obtain ⟨some, each⟩ := number.each
  have unmarked : hexLength (mantissa ++ (exponent ++ rest)) = 0 := by
    refine hexLength_eq_zero fun letter others same => ?_
    rcases mantissa with _ | ⟨c, _ | ⟨d, mantissa⟩⟩
    · exact absurd rfl some
    · refine (apart letter ?_).2.2
      rw [show exponent ++ rest = letter :: others from (List.cons.inj same).2]
      rfl
    · obtain rfl := (List.cons.inj (List.cons.inj same).2).1
      intro mark
      have start := (apart_of_digit (each d (by simp))).2
      rcases List.mem_pair.mp mark with rfl | rfl <;> exact absurd start (by decide)
  have first := mantissaLength_append number fun c member =>
    ⟨(apart c member).1, (apart c member).2.1⟩
  have positive : mantissa.length ≠ 0 := fun zero => some (List.length_eq_zero_iff.mp zero)
  rw [unsignedLength_eq, unmarked, first, List.drop_left, exponentLength_append scale stops]
  simp [positive]

/-- A number is taken as a whole. -/
theorem numberLength_token (number : NumberToken token) (stops : Stops rest) :
    token ≠ [] ∧ numberLength (token ++ rest) = token.length := by
  cases number with
  | @hex sign digits letter signed isLetter some all =>
    have after : ∀ c ∈ rest.head?, isHexDigit c = false := by
      intro c first
      rw [← Bool.not_eq_true]
      intro hex
      have part := isIdentifierPart_of_isHexDigit hex
      rw [(stops.apart c first).2.1] at part
      cases part
    have size := hexLength_append isLetter all after
    have positive : digits.length ≠ 0 := fun zero => some (List.length_eq_zero_iff.mp zero)
    have one := countP_isSign (s := 0x30 :: letter :: (digits ++ rest)) signed (by simp [isSign])
    refine ⟨by simp, ?_⟩
    unfold numberLength
    simp only [List.append_assoc, List.cons_append, one, List.drop_left, unsignedLength_eq, size]
    simp [positive]
  | @decimal sign mantissa exponent signed number scale =>
    obtain ⟨some, each⟩ := number.each
    have unsigned : ∀ c ∈ (mantissa ++ (exponent ++ rest)).head?, isSign c = false := by
      cases mantissa with
      | nil => exact absurd rfl some
      | cons c mantissa =>
        intro d first
        obtain rfl := Option.some.inj first
        exact isSign_eq_false (apart_of_digit (each c (by simp))).1
    have one := countP_isSign signed unsigned
    have size := unsignedLength_decimal number scale stops
    refine ⟨by simp [some], ?_⟩
    unfold numberLength
    simp only [List.append_assoc, one, List.drop_left, size]
    simp [some]

/-! ## Integers -/

/-- A number with a sign before it. -/
def signed (sign : Text) (n : Nat) : Int := if sign = [0x2D] then -(n : Int) else n

/-- The ways to write an integer: decimal digits, no more than can be read, or hexadecimal digits after
their mark. -/
inductive IntegerToken : Text → Int → Prop
  | decimal {sign digits : Text} {n : Nat} (mark : Sign sign) (number : Digits digitValue? 10 digits n)
      (short : digits.length ≤ maxDecimalDigits) : IntegerToken (sign ++ digits) (signed sign n)
  | hex {sign digits : Text} {letter : CodePoint} {n : Nat} (mark : Sign sign)
      (isLetter : letter ∈ [0x78, 0x58]) (number : Digits hexValue? 16 digits n) :
      IntegerToken (sign ++ 0x30 :: letter :: digits) (signed sign n)

theorem IntegerToken.numberToken (integer : IntegerToken token value) : NumberToken token := by
  cases integer with
  | @decimal sign digits n mark number short =>
    have token := NumberToken.decimal mark (.whole number.1 number.each) .none
    rwa [List.append_nil] at token
  | hex mark isLetter number => exact .hex mark isLetter number.1 number.each

theorem dropWhile_isSign {sign : Text} (mark : Sign sign) {c : CodePoint} (other : c ∉ [0x2B, 0x2D])
    (s : Text) : (sign ++ c :: s).dropWhile isSign = c :: s := by
  have stop := isSign_eq_false other
  cases mark <;> simp [stop, show isSign 0x2B = true from rfl, show isSign 0x2D = true from rfl]

theorem head_sign {sign : Text} (mark : Sign sign) {c : CodePoint} (other : c ∉ [0x2B, 0x2D])
    (s : Text) : ((sign ++ c :: s).head? = some 0x2D) = (sign = [0x2D]) := by
  rw [List.mem_pair, not_or] at other
  cases mark <;> simp [other]

/-- Without a hexadecimal mark a number is read as a decimal one. -/
theorem numberOf_decimal {sign digits : Text} (mark : Sign sign) (some : digits ≠ [])
    (all : AllDigits digits) :
    numberOf (sign ++ digits) =
      numberOf.decimal (decide (sign = [0x2D])) (fun n => .int (signed sign n)) digits := by
  obtain ⟨c, digits, rfl⟩ := List.exists_cons_of_ne_nil some
  have other := (apart_of_digit (.inl (all c (List.mem_cons_self ..)))).1
  have body := dropWhile_isSign mark other digits
  have minus := head_sign mark other digits
  have each (letter : CodePoint) (member : letter ∈ digits) : ¬(letter = 0x78 ∨ letter = 0x58) := by
    have digit := all letter (List.mem_cons_of_mem _ member)
    rintro (rfl | rfl) <;> exact absurd digit (by decide)
  unfold numberOf
  simp only [body, minus]
  split
  next letter others same =>
    obtain rfl := (List.cons.inj same).2
    rw [if_neg (each letter (by simp))]
    simp [signed]
  next => simp [signed]

theorem decimal_of_digits {digits : Text} (all : AllDigits digits) (negative : Bool)
    (value : Nat → Json) :
    numberOf.decimal negative value digits =
      if maxDecimalDigits < digits.length then .error (.tooManyDigits digits.length)
      else .ok (value (digitsValue 10 (digitsOf digits))) := by
  have whole : (digits.any fun c => c == 0x2E || c == 0x65 || c == 0x45) = false := by
    rw [List.any_eq_false]
    intro c member
    have digit := all c member
    simp only [Bool.or_eq_true, beq_iff_eq]
    rintro ((rfl | rfl) | rfl) <;> exact absurd digit (by decide)
  rw [numberOf.decimal, whole, if_neg (by simp)]

theorem numberOf_integer (integer : IntegerToken token value) :
    numberOf token = .ok (.int value) := by
  cases integer with
  | @decimal sign digits n mark number short =>
    rw [numberOf_decimal mark number.1 number.each, decimal_of_digits number.each,
      if_neg (Nat.not_lt.mpr short), digitsOf, number.value]
  | @hex sign digits letter n mark isLetter number =>
    have isLetter : letter = 0x78 ∨ letter = 0x58 := List.mem_pair.mp isLetter
    have other : (0x30 : CodePoint) ∉ [0x2B, 0x2D] := by decide
    have body := dropWhile_isSign mark other (letter :: digits)
    have minus := head_sign mark other (letter :: digits)
    unfold numberOf
    simp only [body, minus, if_pos isLetter, number.value]
    simp [signed]

/-- A decimal number with more digits than can be read is refused. -/
theorem numberOf_long {digits : Text} (some : digits ≠ []) (all : AllDigits digits)
    (long : maxDecimalDigits < digits.length) :
    numberOf digits = .error (.tooManyDigits digits.length) := by
  have read := numberOf_decimal .none some all
  rw [List.nil_append] at read
  rw [read, decimal_of_digits all, if_pos long]

/-! ## Identifiers -/

/-- A name of letters, digits, low lines and dollar signs that starts with no digit. -/
inductive Identifier : Text → Prop
  | intro {c : CodePoint} {s : Text} (start : isIdentifierStart c = true)
      (parts : ∀ d ∈ s, isIdentifierPart d = true) : Identifier (c :: s)

theorem identifier_append (named : Identifier name) (stops : Stops rest) :
    identifier (name ++ rest) = name := by
  obtain ⟨start, parts⟩ := named
  have all : ∀ d ∈ _ :: _, isIdentifierPart d = true :=
    List.forall_mem_cons.mpr ⟨by rw [isIdentifierPart, start, Bool.true_or], parts⟩
  have run := takeWhile_append_of_stop all fun d first => (stops.apart d first).2.1
  rw [List.cons_append] at run ⊢
  rw [identifier, if_pos start, run]

theorem identifier_eq_nil (other : isIdentifierStart c = false) (s : Text) :
    identifier (c :: s) = [] := by
  simp [identifier, other]

theorem numberLength_eq_zero (sign : c ∉ [0x2B, 0x2D]) (digit : isDigit c = false) (point : c ≠ 0x2E)
    (s : Text) : numberLength (c :: s) = 0 := by
  have unsigned : ((c :: s).take 1).countP isSign = 0 := by simp [isSign_eq_false sign]
  have run : digitRun (c :: s) = 0 := by simp [digitRun, digit]
  have unmarked : hexLength (c :: s) = 0 := by
    refine hexLength_eq_zero fun letter rest same => ?_
    obtain rfl := (List.cons.inj same).1
    exact absurd digit (by decide)
  have mantissa : mantissaLength (c :: s) = 0 := by
    unfold mantissaLength
    simp [run, point]
  have none : unsignedLength (c :: s) = 0 := by simp [unsignedLength_eq, unmarked, mantissa]
  unfold numberLength
  rw [unsigned]
  exact if_pos none

end UrlRules.Script
