import Mathlib.Data.List.Induction
import Mathlib.Data.List.TakeWhile
import UrlRules.Proofs.Json.Characters
import UrlRules.Proofs.Results
import UrlRules.Proofs.Text.Pieces
import UrlRules.Text.Integer

/-!
# Digits

Digits in a base write a number (`Digits`), and reading hexadecimal digits as an integer gives that number
(`readInteger_hex`). However an integer is written, the number of its characters bounds it
(`natAbs_lt_of_readInteger`). The decimal digits that a number is written in write that number (`digits_ofNat`),
so different numbers are written in different ways (`ofNat_injective`).
-/
namespace UrlRules

namespace Text

variable {value? : CodePoint → Option Nat} {base n : Nat} {s : Text} {c : Nat}

/-- Digits write a number in a base, most significant first. There is at least one. -/
def Digits (value? : CodePoint → Option Nat) (base : Nat) (s : Text) (n : Nat) : Prop :=
  s ≠ [] ∧ ∃ values, s.mapM value? = some values ∧ digitsValue base values = n

theorem filterMap_of_mapM {values : List Nat} (each : s.mapM value? = some values) :
    s.filterMap value? = values := by
  induction s generalizing values with
  | nil => simpa using each
  | cons c s ih =>
    simp only [List.mapM_cons, bind, pure, Option.bind_eq_some_iff, Option.some.injEq] at each
    obtain ⟨v, own, others, each, rfl⟩ := each
    rw [List.filterMap_cons_some own, ih each]

theorem isSome_of_mapM {values : List Nat} (each : s.mapM value? = some values) :
    ∀ c ∈ s, (value? c).isSome = true := by
  induction s generalizing values with
  | nil => simp
  | cons c s ih =>
    simp only [List.mapM_cons, bind, pure, Option.bind_eq_some_iff, Option.some.injEq] at each
    obtain ⟨v, own, others, each, -⟩ := each
    exact List.forall_mem_cons.mpr ⟨by simp [own], ih each⟩

theorem mapM_congr {other? : CodePoint → Option Nat} (same : ∀ c ∈ s, value? c = other? c) :
    s.mapM value? = s.mapM other? := by
  induction s with
  | nil => rfl
  | cons c s ih =>
    obtain ⟨own, others⟩ := List.forall_mem_cons.mp same
    rw [List.mapM_cons, List.mapM_cons, own, ih others]

theorem Digits.each (digits : Digits value? base s n) : ∀ c ∈ s, (value? c).isSome = true := by
  obtain ⟨-, values, read, -⟩ := digits
  exact isSome_of_mapM read

theorem Digits.value (digits : Digits value? base s n) :
    digitsValue base (s.filterMap value?) = n := by
  obtain ⟨-, values, read, value⟩ := digits
  rw [filterMap_of_mapM read, value]

theorem lt_of_isHexDigit (hex : (hexValue? c).isSome = true) : c < 0x67 := by
  unfold hexValue? at hex
  split at hex
  next digit =>
    simp only [isAsciiDigit, Bool.and_eq_true, decide_eq_true_eq] at digit
    exact Nat.lt_of_le_of_lt digit.2 (by decide)
  split at hex
  next lower => exact Nat.lt_of_le_of_lt lower.2 (by decide)
  split at hex
  next upper => exact Nat.lt_of_le_of_lt upper.2 (by decide)
  next => cases hex

/-- Hexadecimal digits are digits of an integer, and nothing else that may stand in one. -/
theorem hexDigit_apart : ∀ c < 0x67, (hexValue? c).isSome = true →
    digitIn? 16 c = hexValue? c ∧ isAsciiBlank c = false ∧ (hexValue? c).getD 0 < 16 ∧
      c ∉ [0x2D, 0x2B, lowLine, 0x78, 0x58, 0x7B, 0x7D] := by decide

theorem Digits.apart (digits : Digits hexValue? base s n) (mark : CodePoint)
    (isMark : mark ∈ [0x2D, 0x2B, lowLine, 0x78, 0x58, 0x7B, 0x7D]) : mark ∉ s := by
  intro member
  have hex := digits.each mark member
  exact (hexDigit_apart mark (lt_of_isHexDigit hex) hex).2.2.2 isMark

/-- Digits write a number that is smaller than every one with a digit more. -/
theorem digitsValue_lt {values : List Nat} (each : ∀ d ∈ values, d < base) :
    digitsValue base values < base ^ values.length := by
  induction values using List.reverseRecOn with
  | nil => exact Nat.one_pos
  | append_singleton values d ih =>
    have others := ih fun v member => each v (List.mem_append_left _ member)
    have own : d < base := each d (by simp)
    rw [digitsValue_snoc, List.length_append, List.length_singleton, Nat.pow_succ]
    calc digitsValue base values * base + d < (digitsValue base values + 1) * base := by
          rw [Nat.succ_mul]; omega
      _ ≤ base ^ values.length * base := Nat.mul_le_mul_right base others

theorem Digits.lt (digits : Digits hexValue? 16 s n) : n < 16 ^ s.length := by
  have each := digits.each
  obtain ⟨-, values, read, rfl⟩ := digits
  have related := mapM_eq_some.mp read
  rw [related.length_eq]
  refine digitsValue_lt (forall_of_forall₂ related fun c member v own => ?_)
  have small := (hexDigit_apart c (lt_of_isHexDigit (each c member)) (each c member)).2.2.1
  rwa [own, Option.getD_some] at small

theorem trim_of_not_mem {skip : CodePoint → Bool} (none : ∀ c ∈ s, skip c = false) :
    trim skip s = s := by
  have left : s.dropWhile skip = s := by
    cases s with
    | nil => rfl
    | cons c s => simp [none c (by simp)]
  have right : s.reverse.dropWhile skip = s.reverse := by
    cases reversed : s.reverse with
    | nil => rfl
    | cons c others =>
      have member : c ∈ s := List.mem_reverse.mp (by simp [reversed])
      simp [none c member]
  unfold trim trimLeft trimRight
  rw [left, right, List.reverse_reverse]

/-- Digits start with no mark of the base. -/
theorem dropBaseMark_hex (digits : Digits hexValue? 16 s n) : dropBaseMark 16 s = s := by
  unfold dropBaseMark
  split
  next x rest letter same =>
    obtain rfl : letter = 0x78 := by simpa [baseLetter?] using same.symm
    have lower : x ≠ 0x78 := by rintro rfl; exact digits.apart 0x78 (by decide) (by simp)
    have upper : x ≠ 0x58 := by rintro rfl; exact digits.apart 0x58 (by decide) (by simp)
    rw [if_neg]
    rintro (same | same)
    · exact lower same
    · exact upper (Nat.add_right_cancel same)
  next => rfl

theorem separatedDigits?_hex {values : List Nat} (some : s ≠ []) (read : s.mapM hexValue? = Option.some values) :
    separatedDigits? 16 s = Option.some values := by
  have digits : Digits hexValue? 16 s (digitsValue 16 values) := ⟨some, values, read, rfl⟩
  have plain : splitOn lowLine s = [s] := splitOn_of_not_mem (digits.apart lowLine (by decide))
  have same : s.mapM (digitIn? 16) = s.mapM hexValue? := mapM_congr fun c member =>
    (hexDigit_apart c (lt_of_isHexDigit (digits.each c member)) (digits.each c member)).1
  unfold separatedDigits?
  rw [plain]
  simp [some, same, read]

theorem readInteger_hex (digits : Digits hexValue? 16 s n) : readInteger 16 s = .ok (n : Int) := by
  have each (c : Nat) (member : c ∈ s) := hexDigit_apart c
    (lt_of_isHexDigit (digits.each c member)) (digits.each c member)
  have trimmed : trim isIntegerBlank s = s := by
    refine trim_of_not_mem fun c member => ?_
    have small := lt_of_isHexDigit (digits.each c member)
    have ascii : ¬0x80 ≤ c := Nat.not_le.mpr (Nat.lt_trans small (by decide))
    simp [isIntegerBlank, (each c member).2.1, ascii]
  have minus (rest : Text) : s ≠ 0x2D :: rest := fun same =>
    (each 0x2D (by simp [same])).2.2.2 (by decide)
  have plus (rest : Text) : s ≠ 0x2B :: rest := fun same =>
    (each 0x2B (by simp [same])).2.2.2 (by decide)
  have unmarked := dropBaseMark_hex digits
  obtain ⟨some, values, read, rfl⟩ := digits
  unfold readInteger
  simp [trimmed, unmarked, separatedDigits?_hex some read]

/-! ## The size of integers -/

theorem lt_of_digitIn? {d : Nat} (found : digitIn? base c = some d) : d < base := by
  unfold digitIn? at found
  split at found
  · split at found
    next small =>
      obtain rfl := Option.some.inj found
      exact small
    next => cases found
  · obtain ⟨v, -, found⟩ := Option.bind_eq_some_iff.mp found
    split at found
    next small =>
      obtain rfl := Option.some.inj found
      exact small
    next => cases found

/-- There are no more digits than characters. -/
theorem separatedDigits?_bound {values : List Nat} (read : separatedDigits? base s = some values) :
    values.length ≤ s.length ∧ ∀ d ∈ values, d < base := by
  unfold separatedDigits? at read
  split at read
  next pieces each =>
    obtain rfl := Option.some.inj read
    have related := mapM_eq_some.mp each
    have piecewise {piece : Text} {digits : List Nat}
        (own : (if piece.isEmpty then none else piece.mapM (digitIn? base)) = some digits) :
        List.Forall₂ (fun c d => digitIn? base c = some d) piece digits := by
      split at own
      · cases own
      · exact mapM_eq_some.mp own
    constructor
    · have sizes : (splitOn lowLine s).map List.length = pieces.map List.length := by
        rw [← List.forall₂_eq_eq_eq, List.forall₂_map_left_iff, List.forall₂_map_right_iff]
        exact related.imp fun _ _ own => (piecewise own).length_eq
      have whole := length_joinWith lowLine (splitOn_ne_nil lowLine s)
      have some := List.length_pos_iff.mpr (splitOn_ne_nil lowLine s)
      rw [joinWith_splitOn] at whole
      rw [List.length_flatten] at whole ⊢
      rw [← sizes]
      omega
    · intro d member
      obtain ⟨digits, inside, member⟩ := List.mem_flatten.mp member
      obtain ⟨piece, -, own⟩ := exists_of_forall₂ related inside
      obtain ⟨c, -, found⟩ := exists_of_forall₂ (piecewise own) member
      exact lt_of_digitIn? found
  next => cases read

theorem length_trim_le (skip : CodePoint → Bool) (s : Text) : (trim skip s).length ≤ s.length := by
  unfold trim trimRight trimLeft
  rw [List.length_reverse]
  refine Nat.le_trans (List.length_dropWhile_le ..) ?_
  rw [List.length_reverse]
  exact List.length_dropWhile_le ..

theorem length_dropBaseMark_le (base : Nat) (s : Text) : (dropBaseMark base s).length ≤ s.length := by
  unfold dropBaseMark
  split
  · split
    · split <;> simp only [List.length_cons] <;> omega
    · exact Nat.le_refl _
  · exact Nat.le_refl _

/-- An integer is smaller than every number with one digit more than it has characters. -/
theorem natAbs_lt_of_readInteger {m : Int} (positive : 0 < base) (read : readInteger base s = .ok m) :
    m.natAbs < base ^ s.length := by
  unfold readInteger at read
  extract_lets trimmed at read
  have short : trimmed.length ≤ s.length := length_trim_le ..
  clear_value trimmed
  split at read
  next negative body signed =>
    have unsigned : body.length ≤ trimmed.length := by
      split at signed <;> obtain ⟨-, rfl⟩ := Prod.mk.inj signed
      · exact Nat.le_succ _
      · exact Nat.le_succ _
      · exact Nat.le_refl _
    split at read
    · cases read
    next digits separated =>
      obtain ⟨count, small⟩ := separatedDigits?_bound separated
      have marked := length_dropBaseMark_le base body
      split at read
      · cases read
      next =>
        have size : m.natAbs = digitsValue base digits := by
          obtain rfl := Except.ok.inj read
          split <;> simp
        rw [size]
        calc digitsValue base digits < base ^ digits.length := digitsValue_lt small
          _ ≤ base ^ s.length := Nat.pow_le_pow_right positive (by omega)

/-! ## Decimal numbers -/

theorem isAsciiDigit_of_mem_ofNat (member : c ∈ ofNat n) : isAsciiDigit c = true := by
  obtain ⟨d, inside, rfl⟩ := List.mem_map.mp member
  have digit := Nat.isDigit_of_mem_toDigits (by decide) (by decide) inside
  simp only [Char.isDigit, Bool.and_eq_true, decide_eq_true_eq, ge_iff_le] at digit
  have low : 0x30 ≤ d.toNat := digit.1
  have high : d.toNat ≤ 0x39 := digit.2
  simp only [isAsciiDigit, Bool.and_eq_true, decide_eq_true_eq]
  exact ⟨low, high⟩

theorem digitValue?_ascii (digit : isAsciiDigit c = true) : digitValue? c = some (c - 0x30) := by
  have bounds : 0x30 ≤ c ∧ c ≤ 0x39 := by simpa [isAsciiDigit] using digit
  have small : c < 0x80 := by omega
  rw [digitValue?, if_pos small, if_pos bounds]

/-- The digits in which a number is written write that number. -/
theorem digits_ofNat (n : Nat) : Digits digitValue? 10 (ofNat n) n := by
  have each : (ofNat n).mapM digitValue? = (ofNat n).mapM fun c => some (c - 0x30) :=
    mapM_congr fun c member => digitValue?_ascii (isAsciiDigit_of_mem_ofNat member)
  refine ⟨by simp [ofNat], (ofNat n).map (· - 0x30), each.trans List.mapM_pure, ?_⟩
  have value := Nat.ofDigitChars_toDigits (b := 10) (n := n) (by decide) (by decide)
  simpa [ofNat, digitsValue, List.foldl_map, Nat.ofDigitChars_eq_foldl, Nat.mul_comm] using value

/-- Numbers that are written alike are the same. -/
theorem ofNat_injective {m : Nat} (same : ofNat m = ofNat n) : m = n := by
  rw [← (digits_ofNat m).value, same, (digits_ofNat n).value]

end Text

end UrlRules
