import Mathlib.Data.List.TakeWhile
import UrlRules.Proofs.Script.Grammar

/-!
# Numbers that are read

What is taken off the start of a text as a number is a number of the grammar (`numberLength_ne_zero`), and its
value is the one that the grammar gives it (`numberOf_ok`).
-/
namespace UrlRules.Script

open Text

variable {s token mantissa exponent digits : Text} {v : Json} {n : Nat}

/-! ## Tokens -/

/-- A text starts with one sign or none. -/
theorem exists_sign (s : Text) :
    ∃ sign rest, Sign sign ∧ s = sign ++ rest ∧ (s.take 1).countP isSign = sign.length := by
  have unsigned (one : (s.take 1).countP isSign = 0) :
      ∃ sign rest, Sign sign ∧ s = sign ++ rest ∧ (s.take 1).countP isSign = sign.length :=
    ⟨[], s, .none, rfl, one⟩
  cases s with
  | nil => exact unsigned rfl
  | cons c s =>
    by_cases mark : isSign c = true
    · have one : ((c :: s).take 1).countP isSign = 1 := by simp [mark]
      have marks : c = 0x2B ∨ c = 0x2D := by simpa [isSign] using mark
      rcases marks with rfl | rfl
      · exact ⟨[0x2B], s, .plus, rfl, one⟩
      · exact ⟨[0x2D], s, .minus, rfl, one⟩
    · exact unsigned (by simp [mark])

theorem hexLength_ne_zero (some : hexLength s ≠ 0) :
    ∃ letter digits rest, s = 0x30 :: letter :: (digits ++ rest) ∧ letter ∈ [0x78, 0x58] ∧ digits ≠ [] ∧
      (∀ c ∈ digits, isHexDigit c = true) ∧ hexLength s = digits.length := by
  unfold hexLength at some ⊢
  split at some
  next letter s =>
    split at some
    next isLetter =>
      refine ⟨letter, s.takeWhile isHexDigit, s.dropWhile isHexDigit, ?_, List.mem_pair.mpr isLetter,
        List.ne_nil_of_length_pos (Nat.pos_of_ne_zero some), fun _ => List.mem_takeWhile_imp, if_pos isLetter⟩
      rw [List.takeWhile_append_dropWhile]
    next => exact absurd rfl some
  next => exact absurd rfl some

theorem eq_digitRun (s : Text) :
    ∃ digits rest, s = digits ++ rest ∧ AllDigits digits ∧ digitRun s = digits.length :=
  ⟨s.takeWhile isDigit, s.dropWhile isDigit, List.takeWhile_append_dropWhile.symm, fun _ => List.mem_takeWhile_imp, rfl⟩

theorem mantissaLength_ne_zero (some : mantissaLength s ≠ 0) :
    ∃ mantissa rest, s = mantissa ++ rest ∧ Mantissa mantissa ∧ mantissaLength s = mantissa.length := by
  obtain ⟨digits, after, rfl, all, run⟩ := eq_digitRun s
  unfold mantissaLength at some ⊢
  rw [run, List.drop_left] at some ⊢
  split at some
  next rest =>
    obtain ⟨places, rest, rfl, all', run'⟩ := eq_digitRun rest
    rw [run'] at some ⊢
    split at some
    · exact absurd rfl some
    next digit =>
      have nonempty : digits ++ places ≠ [] := by
        rw [Ne, List.append_eq_nil_iff]
        rintro ⟨rfl, rfl⟩
        exact digit ⟨rfl, rfl⟩
      have every : AllDigits (digits ++ places) := fun c member =>
        (List.mem_append.mp member).elim (all c) (all' c)
      refine ⟨digits ++ 0x2E :: places, rest, by simp, .pointed nonempty every, ?_⟩
      rw [if_neg digit, List.length_append, List.length_cons]
      omega
  next pointless =>
    exact ⟨digits, after, rfl, .whole (List.ne_nil_of_length_pos (Nat.pos_of_ne_zero some)) all, rfl⟩

theorem eq_exponent (s : Text) :
    ∃ exponent rest, s = exponent ++ rest ∧ Exponent exponent ∧ exponentLength s = exponent.length := by
  unfold exponentLength
  split
  next letter rest =>
    split
    next isLetter =>
      obtain ⟨sign, after, mark, rfl, one⟩ := exists_sign rest
      obtain ⟨digits, after, rfl, all, run⟩ := eq_digitRun after
      dsimp only
      rw [one, List.drop_left, run]
      split
      next => exact ⟨[], _, rfl, .none, rfl⟩
      next some =>
        have nonempty : digits ≠ [] := fun none => some (by rw [none]; rfl)
        refine ⟨letter :: (sign ++ digits), after, by simp,
          .power (List.mem_pair.mpr isLetter) mark nonempty all, ?_⟩
        simp only [List.length_cons, List.length_append]
        omega
    next => exact ⟨[], _, rfl, .none, rfl⟩
  next => exact ⟨[], _, rfl, .none, rfl⟩

theorem unsignedLength_ne_zero (some : unsignedLength s ≠ 0) :
    ∃ body rest, s = body ++ rest ∧ unsignedLength s = body.length ∧
      ∀ sign, Sign sign → NumberToken (sign ++ body) := by
  rw [unsignedLength_eq] at some ⊢
  split at some
  next hex =>
    obtain ⟨letter, digits, rest, rfl, isLetter, nonempty, all, size⟩ := hexLength_ne_zero hex
    refine ⟨0x30 :: letter :: digits, rest, rfl, ?_, fun sign mark => .hex mark isLetter nonempty all⟩
    rw [if_pos hex, size]
    rfl
  next noHex =>
    split at some
    · exact absurd rfl some
    next digit =>
      obtain ⟨mantissa, rest, same, number, size⟩ := mantissaLength_ne_zero digit
      obtain ⟨exponent, rest, rfl, scale, size'⟩ := eq_exponent rest
      refine ⟨mantissa ++ exponent, rest, by rw [same, List.append_assoc], ?_,
        fun sign mark => .decimal mark number scale⟩
      have after : s.drop mantissa.length = exponent ++ rest := by rw [same, List.drop_left]
      rw [if_neg noHex, if_neg digit, size, after, size', List.length_append]

/-- What is taken as a number is one. -/
theorem numberLength_ne_zero (some : numberLength s ≠ 0) :
    ∃ token rest, s = token ++ rest ∧ numberLength s = token.length ∧ NumberToken token := by
  obtain ⟨sign, after, mark, rfl, one⟩ := exists_sign s
  unfold numberLength at some ⊢
  dsimp only at some ⊢
  rw [one, List.drop_left] at some ⊢
  split at some
  · exact absurd rfl some
  next digit =>
    obtain ⟨body, rest, rfl, size, token⟩ := unsignedLength_ne_zero digit
    refine ⟨sign ++ body, rest, by rw [List.append_assoc], ?_, token sign mark⟩
    rw [if_neg digit, size, List.length_append]

/-! ## Values -/

/-- Where every character is a digit, the digits write a number. -/
theorem digits_of_each {value? : CodePoint → Option Nat} (base : Nat) (some : digits ≠ [])
    (each : ∀ c ∈ digits, (value? c).isSome = true) : ∃ n, Digits value? base digits n := by
  have read : ∃ values, digits.mapM value? = Option.some values := by
    clear some
    induction digits with
    | nil => exact ⟨[], rfl⟩
    | cons c digits ih =>
      obtain ⟨own, others⟩ := List.forall_mem_cons.mp each
      obtain ⟨v, own⟩ := Option.isSome_iff_exists.mp own
      obtain ⟨values, others⟩ := ih others
      exact ⟨v :: values, by rw [List.mapM_cons, own, others]; rfl⟩
  obtain ⟨values, read⟩ := read
  exact ⟨digitsValue base values, some, values, read, rfl⟩

theorem length_digitsOf (all : AllDigits digits) : (digitsOf digits).length = digits.length := by
  induction digits with
  | nil => rfl
  | cons c digits ih =>
    obtain ⟨own, others⟩ := List.forall_mem_cons.mp all
    obtain ⟨v, own⟩ := Option.isSome_iff_exists.mp own
    rw [digitsOf, List.filterMap_cons_some own, List.length_cons, List.length_cons, ← ih others, digitsOf]

theorem Mantissa.exists_value (number : Mantissa mantissa) :
    ∃ n places, MantissaValue mantissa n places := by
  cases number with
  | whole some all =>
    obtain ⟨n, number⟩ := digits_of_each 10 some all
    exact ⟨n, 0, .whole number⟩
  | pointed some all =>
    obtain ⟨n, number⟩ := digits_of_each 10 some all
    exact ⟨n, _, .pointed number⟩

theorem Exponent.exists_value (scale : Exponent exponent) : ∃ power, ExponentValue exponent power := by
  cases scale with
  | none => exact ⟨0, .none⟩
  | power isLetter mark some all =>
    obtain ⟨n, number⟩ := digits_of_each 10 some all
    exact ⟨_, .power isLetter mark number⟩

theorem MantissaValue.form {places : Nat} (number : MantissaValue mantissa n places) :
    Mantissa mantissa := by
  cases number with
  | whole number => exact .whole number.1 number.each
  | pointed number => exact .pointed number.1 number.each

theorem ExponentValue.form {power : Int} (scale : ExponentValue exponent power) : Exponent exponent := by
  cases scale with
  | none => exact .none
  | power isLetter mark number => exact .power isLetter mark number.1 number.each

theorem NumberValue.numberToken (number : NumberValue token v) : NumberToken token := by
  cases number with
  | integer number => exact number.numberToken
  | decimal mark number scale => exact .decimal mark number.form scale.form

/-- The mantissa is cut at its point, and its digits are those on both sides. -/
theorem MantissaValue.cut {places : Nat} (number : MantissaValue mantissa n places) :
    ∃ whole fraction, (Text.cut 0x2E mantissa).1 = whole ∧ (Text.cut 0x2E mantissa).2.getD [] = fraction ∧
      digitsValue 10 (digitsOf (whole ++ fraction)) = n ∧ (digitsOf fraction).length = places := by
  have pointless {digits : Text} (all : AllDigits digits) : 0x2E ∉ digits := fun member =>
    absurd (all 0x2E member) (by decide)
  cases number with
  | whole number =>
    rw [cut_of_not_mem (pointless number.each)]
    exact ⟨_, [], rfl, rfl, by rw [List.append_nil]; exact number.value, rfl⟩
  | @pointed digits places n number =>
    have all : AllDigits digits := fun c member => number.each c (List.mem_append_left _ member)
    have all' : AllDigits places := fun c member => number.each c (List.mem_append_right _ member)
    rw [cut_append (pointless all)]
    exact ⟨digits, places, rfl, rfl, number.value, length_digitsOf all'⟩

/-- The digits after the letter give the size of the exponent, and a minus sign there its sign. -/
theorem ExponentValue.read {power : Int} (scale : ExponentValue exponent power) :
    (if (exponent.drop 1).head? = some 0x2D then -((digitsValue 10 (digitsOf (exponent.drop 1)) : Nat) : Int)
      else (digitsValue 10 (digitsOf (exponent.drop 1)) : Nat)) = power := by
  cases scale with
  | none => rfl
  | @power letter sign digits n isLetter mark number =>
    obtain ⟨c, others, rfl⟩ := List.exists_cons_of_ne_nil number.1
    have other := (apart_of_digit (.inl (number.each c (List.mem_cons_self ..)))).1
    have value : digitsValue 10 (digitsOf (sign ++ c :: others)) = n := by
      rw [← number.value]
      cases mark <;> rfl
    simp only [List.drop_one, List.tail_cons, value, head_sign mark other, signed]

theorem floatOf_value {places : Nat} {power : Int} (number : MantissaValue mantissa n places)
    (scale : ExponentValue exponent power) (all : ∀ c ∈ mantissa, isDigit c = true ∨ c = 0x2E)
    (negative : Bool) :
    floatOf negative (mantissa ++ exponent) = Binary64.ofDecimal negative n (power - places) := by
  have run : (mantissa ++ exponent).takeWhile (fun c => c != 0x65 && c != 0x45) = mantissa := by
    refine takeWhile_append_of_stop (fun c member => ?_) fun c first => ?_
    · have digit := all c member
      simp only [Bool.and_eq_true, bne_iff_ne]
      constructor <;> (rintro rfl; exact absurd digit (by decide))
    · cases scale with
      | none => cases first
      | power isLetter =>
        obtain rfl := Option.some.inj first
        rcases List.mem_pair.mp isLetter with rfl | rfl <;> rfl
  obtain ⟨whole, fraction, left, right, value, size⟩ := number.cut
  have read := scale.read
  have after : (mantissa ++ exponent).drop (mantissa.length + 1) = exponent.drop 1 := by
    rw [← List.drop_drop, List.drop_left]
  unfold floatOf
  simp only [run, left, right, after, value, size, read]

/-- A number with a point or an exponent is read as a double. -/
theorem numberOf_marked {sign : Text} (mark : Sign sign) (number : Mantissa mantissa)
    (scale : Exponent exponent) (marked : 0x2E ∈ mantissa ∨ exponent ≠ []) :
    numberOf (sign ++ (mantissa ++ exponent)) =
      .ok (.float (floatOf (decide (sign = [0x2D])) (mantissa ++ exponent))) := by
  obtain ⟨some, all⟩ := number.each
  have unmarked : ∀ c ∈ mantissa ++ exponent, ¬(c = 0x78 ∨ c = 0x58) := by
    intro c member letter
    rcases List.mem_append.mp member with left | right
    · have digit := all c left
      rcases letter with rfl | rfl <;> exact absurd digit (by decide)
    · cases scale with
      | none => cases right
      | @power e sign digits isLetter signed some every =>
        rcases List.mem_cons.mp right with rfl | right
        · rcases letter with rfl | rfl <;> exact absurd isLetter (by decide)
        · rcases List.mem_append.mp right with right | right
          · cases signed <;> rcases letter with rfl | rfl <;> exact absurd right (by decide)
          · have digit := every c right
            rcases letter with rfl | rfl <;> exact absurd digit (by decide)
  have decimal : ((mantissa ++ exponent).any fun c => c == 0x2E || c == 0x65 || c == 0x45) = true := by
    rw [List.any_eq_true]
    rcases marked with point | power
    · exact ⟨0x2E, List.mem_append_left _ point, rfl⟩
    · cases scale with
      | none => exact absurd rfl power
      | @power letter sign digits isLetter =>
        refine ⟨letter, by simp, ?_⟩
        rcases List.mem_pair.mp isLetter with rfl | rfl <;> rfl
  obtain ⟨c, others, rfl⟩ := List.exists_cons_of_ne_nil some
  have other := (apart_of_digit (all c (List.mem_cons_self ..))).1
  rw [List.cons_append] at unmarked decimal ⊢
  unfold numberOf
  simp only [dropWhile_isSign mark other, head_sign mark other]
  split
  next letter digits same =>
    rw [if_neg (unmarked letter (by rw [same]; simp)), numberOf.decimal, if_pos decimal]
  next => rw [numberOf.decimal, if_pos decimal]

/-- The value that is read is the one that the grammar gives. -/
theorem numberOf_ok (number : NumberToken token) (read : numberOf token = .ok v) : NumberValue token v := by
  have integer {m : Int} (integer : IntegerToken token m) : NumberValue token v := by
    rw [numberOf_integer integer] at read
    obtain rfl := Except.ok.inj read
    exact .integer integer
  cases number with
  | hex mark isLetter some all =>
    obtain ⟨n, number⟩ := digits_of_each 16 some all
    exact integer (.hex mark isLetter number)
  | @decimal sign mantissa exponent mark number scale =>
    by_cases marked : 0x2E ∈ mantissa ∨ exponent ≠ []
    · rw [numberOf_marked mark number scale marked] at read
      obtain rfl := Except.ok.inj read
      obtain ⟨n, places, value⟩ := number.exists_value
      obtain ⟨power, value'⟩ := scale.exists_value
      rw [floatOf_value value value' number.each.2]
      exact .decimal mark value value' marked
    · obtain ⟨pointless, rfl⟩ : 0x2E ∉ mantissa ∧ exponent = [] := by simpa [not_or] using marked
      cases number with
      | pointed => exact absurd (by simp) pointless
      | whole some all =>
        rw [List.append_nil] at read integer ⊢
        obtain ⟨n, number⟩ := digits_of_each 10 some all
        refine integer (.decimal mark number (Nat.not_lt.mp fun long => ?_))
        rw [numberOf_decimal mark some all, decimal_of_digits all, if_pos long] at read
        cases read

end UrlRules.Script
