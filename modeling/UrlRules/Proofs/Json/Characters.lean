import Mathlib.Algebra.GroupWithZero.Nat
import UrlRules.Json.Reader
import UrlRules.Json.Writer
import UrlRules.Proofs.Text.Utf8

/-!
# Characters in JSON texts

`Spells e c` says that reading `e` inside a text gives the character `c`. Both writers spell every
Unicode scalar value: as itself, by a short escape, by one escape with four digits, or by two that form
a surrogate pair. A surrogate on its own is written as one escape, which is read back where no second half
follows a first (`secondHalf?_asciiCharacter`). `Joined` texts have no such places.
-/
namespace UrlRules

namespace Text

theorem hexValue?_hexDigit : ∀ n < 16, hexValue? (hexDigit n) = some n := by decide

theorem digitsValue_snoc (base : Nat) (digits : List Nat) (d : Nat) :
    digitsValue base (digits ++ [d]) = digitsValue base digits * base + d := by
  simp [digitsValue]

@[simp] theorem length_hexPadded (width n : Nat) : (hexPadded width n).length = width := by
  induction width generalizing n with
  | zero => rfl
  | succ width ih => simp [hexPadded, ih]

/-- Padded digits are read back as the last `width` digits of the number. -/
theorem mapM_hexPadded (width n : Nat) :
    ∃ values, (hexPadded width n).mapM hexValue? = some values ∧
      digitsValue 16 values = n % 16 ^ width := by
  induction width generalizing n with
  | zero => exact ⟨[], rfl, by simp [digitsValue, Nat.mod_one]⟩
  | succ width ih =>
    obtain ⟨values, read, value⟩ := ih (n / 16)
    have last := hexValue?_hexDigit (n % 16) (Nat.mod_lt n (by decide))
    refine ⟨values ++ [n % 16], ?_, ?_⟩
    · simp [hexPadded, List.mapM_append, read, last]
    · rw [digitsValue_snoc, value, Nat.pow_succ', Nat.mod_mul]
      omega

end Text

namespace Json

open Text

variable {c d : Nat} {e rest : Text}

theorem isHighSurrogate_iff : isHighSurrogate c = true ↔ 0xD800 ≤ c ∧ c ≤ 0xDBFF := by
  simp only [isHighSurrogate, Bool.and_eq_true, decide_eq_true_eq]

theorem isLowSurrogate_iff : isLowSurrogate c = true ↔ 0xDC00 ≤ c ∧ c ≤ 0xDFFF := by
  simp only [isLowSurrogate, Bool.and_eq_true, decide_eq_true_eq]

theorem fourHex?_hexPadded {n : Nat} (small : n < 0x10000) : fourHex? (hexPadded 4 n) = some n := by
  obtain ⟨values, read, value⟩ := mapM_hexPadded 4 n
  have whole : n % 16 ^ 4 = n := Nat.mod_eq_of_lt small
  unfold fourHex?
  rw [if_pos (length_hexPadded 4 n), read, Option.map_some, value, whole]

/-- Reading `e` inside a text gives the character `c`. Something has to follow in the text. -/
def Spells (e : Text) (c : Nat) : Prop :=
  e ≠ [] ∧ ∀ opened fuel read rest, rest ≠ [] →
    readCharacters opened (fuel + 1) read (e ++ rest) = readCharacters opened fuel (c :: read) rest

theorem spells_itself (apart : c ≠ 0x22 ∧ c ≠ 0x5C) (printable : 0x20 ≤ c) : Spells [c] c := by
  refine ⟨by simp, fun opened fuel read rest _ => ?_⟩
  have control : ¬c ≤ 0x1F := by omega
  simp [readCharacters, apart, control]

theorem spells_short {letter : Nat} (short : shortEscape? letter = some c)
    (other : letter ≠ 0x75) : Spells [0x5C, letter] c := by
  refine ⟨by simp, fun opened fuel read rest _ => ?_⟩
  simp [readCharacters, short, other]

section Escape

variable {digits : Text} {n : Nat} (four : fourHex? digits = some n) {rest : Text} (more : rest ≠ [])
include four

theorem length_of_fourHex? : digits.length = 4 := by
  unfold fourHex? at four
  split at four
  next size => exact size
  next => cases four

include more

theorem length_digits : 4 < (digits ++ rest).length := by
  have := List.length_pos_iff.mpr more
  rw [List.length_append, length_of_fourHex? four]
  omega

/-- Four digits are read if something follows them, and no second half after a first. -/
theorem readUnicodeEscape_single (alone : isHighSurrogate n = true → secondHalf? rest = .ok none) :
    readUnicodeEscape (digits ++ rest) = .ok (n, rest) := by
  have size := length_of_fourHex? four
  unfold readUnicodeEscape
  rw [if_neg (Nat.not_le.mpr (length_digits four more)), List.take_left' size, four, List.drop_left' size]
  cases high : isHighSurrogate n with
  | false => simp [high]
  | true => simp [high, alone high, bind, Except.bind]

theorem secondHalf?_of_fourHex? :
    secondHalf? (0x5C :: 0x75 :: (digits ++ rest)) = .ok (if isLowSurrogate n then some n else none) := by
  have long : ¬(0x5C :: 0x75 :: (digits ++ rest)).length ≤ 6 := by
    have := length_digits four more
    simp only [List.length_cons]
    omega
  have digits' : ((0x5C :: 0x75 :: (digits ++ rest)).drop 2).take 4 = digits :=
    List.take_left' (length_of_fourHex? four)
  unfold secondHalf?
  rw [if_neg fun short => short.elim long (· rfl), digits', four]

/-- A first half and a second one are read as one character. -/
theorem readUnicodeEscape_pair {digits' : Text} {low : Nat} (four' : fourHex? digits' = some low)
    (high : isHighSurrogate n = true) (isLow : isLowSurrogate low = true) :
    readUnicodeEscape (digits ++ 0x5C :: 0x75 :: (digits' ++ rest)) = .ok (joinSurrogates n low, rest) := by
  have size := length_of_fourHex? four
  have second := secondHalf?_of_fourHex? four' more
  have after : (0x5C :: 0x75 :: (digits' ++ rest)).drop 6 = rest := List.drop_left' (length_of_fourHex? four')
  unfold readUnicodeEscape
  rw [if_neg (Nat.not_le.mpr (length_digits four (by simp))), List.take_left' size, four, List.drop_left' size]
  simp only [high, if_true, second, isLow, bind, Except.bind, after]

theorem readCharacters_single (alone : isHighSurrogate n = true → secondHalf? rest = .ok none) (opened fuel : Nat)
    (read : Text) :
    readCharacters opened (fuel + 1) read (0x5C :: 0x75 :: (digits ++ rest)) =
      readCharacters opened fuel (n :: read) rest := by
  simp [readCharacters, readUnicodeEscape_single four more alone, bind, Except.bind]

end Escape

theorem spells_escape (small : c < 0x10000) (single : isSurrogate c = false) :
    Spells (0x5C :: 0x75 :: hexPadded 4 c) c := by
  refine ⟨by simp, fun opened fuel read rest more => ?_⟩
  -- The character is no surrogate, so no second half is looked for.
  have low : isHighSurrogate c = false := by
    rw [← Bool.not_eq_true, isHighSurrogate_iff]
    rw [← Bool.not_eq_true, isSurrogate_iff] at single
    omega
  have alone : isHighSurrogate c = true → secondHalf? rest = .ok none := by simp [low]
  exact readCharacters_single (fourHex?_hexPadded small) more alone opened fuel read

theorem joinSurrogates_halves (large : 0x10000 ≤ c) :
    joinSurrogates (0xD800 + (c - 0x10000) / 0x400) (0xDC00 + (c - 0x10000) % 0x400) = c := by
  have joined : 0x10000 + (0xD800 + (c - 0x10000) / 0x400 - 0xD800) * 0x400 +
      (0xDC00 + (c - 0x10000) % 0x400 - 0xDC00) = c := by omega
  exact joined

/-- A character beyond the first plane, written as two escapes. -/
theorem spells_pair {digits digits' : Text} {high low : Nat} (four : fourHex? digits = some high)
    (four' : fourHex? digits' = some low) (isHigh : isHighSurrogate high = true) (isLow : isLowSurrogate low = true) :
    Spells (0x5C :: 0x75 :: digits ++ 0x5C :: 0x75 :: digits') (joinSurrogates high low) := by
  refine ⟨by simp, fun opened fuel read rest more => ?_⟩
  have both := readUnicodeEscape_pair four more four' isHigh isLow
  simp only [List.append_assoc, List.cons_append]
  simp [readCharacters, both, bind, Except.bind]

/-- An escape that every text needs has one letter or four digits. -/
theorem controlEscape?_cases (escaped : controlEscape? c = some e) :
    (∃ letter, shortEscape? letter = some c ∧ letter ≠ 0x75 ∧ e = [0x5C, letter]) ∨
      c < 0x20 ∧ e = 0x5C :: 0x75 :: hexPadded 4 c := by
  unfold controlEscape? at escaped
  split at escaped
  next quoted =>
    cases escaped
    refine .inl ⟨c, ?_, ?_, rfl⟩
    · rcases quoted with rfl | rfl <;> rfl
    · rcases quoted with rfl | rfl <;> decide
  repeat
    split at escaped
    next same =>
      cases escaped
      subst same
      exact .inl ⟨_, rfl, by decide, rfl⟩
  split at escaped
  next control =>
    cases escaped
    exact .inr ⟨control, rfl⟩
  next => cases escaped

/-- The characters that have an escape in every text. -/
theorem spells_controlEscape (escaped : controlEscape? c = some e) : Spells e c := by
  rcases controlEscape?_cases escaped with ⟨letter, short, other, rfl⟩ | ⟨control, rfl⟩
  · exact spells_short short other
  · refine spells_escape (by omega) ?_
    rw [← Bool.not_eq_true, isSurrogate_iff]
    omega

theorem plain_of_controlEscape? (unescaped : controlEscape? c = none) :
    (c ≠ 0x22 ∧ c ≠ 0x5C) ∧ 0x20 ≤ c := by
  unfold controlEscape? at unescaped
  split at unescaped
  next => cases unescaped
  next apart =>
    refine ⟨not_or.mp apart, Nat.le_of_not_lt fun control => ?_⟩
    repeat
      split at unescaped
      next => cases unescaped
    cases unescaped

theorem spells_openCharacter (c : Nat) : Spells (openCharacter c) c := by
  unfold openCharacter
  cases escape : controlEscape? c with
  | some e => exact spells_controlEscape escape
  | none =>
    obtain ⟨apart, printable⟩ := plain_of_controlEscape? escape
    exact spells_itself apart printable

theorem spells_asciiCharacter (scalar : IsScalarValue c) : Spells (asciiCharacter c) c := by
  unfold asciiCharacter
  cases escape : controlEscape? c with
  | some e => exact spells_controlEscape escape
  | none =>
    obtain ⟨apart, printable⟩ := plain_of_controlEscape? escape
    dsimp only
    split
    · exact spells_itself apart printable
    · split
      next small => exact spells_escape small scalar.2
      next large =>
        have large : 0x10000 ≤ c := Nat.le_of_not_lt large
        have bounded : c ≤ 0x10FFFF := scalar.1
        have pair := spells_pair (fourHex?_hexPadded (by omega)) (fourHex?_hexPadded (by omega))
          (isHighSurrogate_iff.mpr (show 0xD800 ≤ 0xD800 + (c - 0x10000) / 0x400 ∧ _ by omega))
          (isLowSurrogate_iff.mpr (show 0xDC00 ≤ 0xDC00 + (c - 0x10000) % 0x400 ∧ _ by omega))
        rwa [joinSurrogates_halves large] at pair

/-! ## Surrogates on their own -/

theorem lt_of_shortEscape? {letter : CodePoint} (short : shortEscape? letter = some c) : c < 0x80 := by
  unfold shortEscape? at short
  split at short
  next itself =>
    obtain rfl := Option.some.inj short
    rcases itself with rfl | rfl | rfl <;> decide
  repeat
    split at short
    next =>
      obtain rfl := Option.some.inj short
      decide
  cases short

/-- Only characters of ASCII need an escape in every text. -/
theorem controlEscape?_large (large : 0x80 ≤ c) : controlEscape? c = none := by
  refine Option.eq_none_iff_forall_not_mem.mpr fun e escaped => ?_
  rcases controlEscape?_cases escaped with ⟨letter, short, -, -⟩ | ⟨small, -⟩
  · exact absurd (lt_of_shortEscape? short) (Nat.not_lt.mpr large)
  · omega

theorem asciiCharacter_surrogate (surrogate : isSurrogate c = true) :
    asciiCharacter c = 0x5C :: 0x75 :: hexPadded 4 c := by
  have bounds := isSurrogate_iff.mp surrogate
  have control := controlEscape?_large (show 0x80 ≤ c by omega)
  have printable : ¬c < 0x7F := by omega
  have small : c < 0x10000 := by omega
  unfold asciiCharacter
  simp only [control]
  rw [if_neg printable, if_pos small]

theorem secondHalf?_of_take {s : Text} (other : s.take 2 ≠ [0x5C, 0x75]) : secondHalf? s = .ok none :=
  if_pos (.inr other)

/-- What is written for anything but a second half is not read as one. -/
theorem secondHalf?_asciiCharacter (bounded : d ≤ maxCodePoint) (other : isLowSurrogate d = false)
    (more : rest ≠ []) : secondHalf? (asciiCharacter d ++ rest) = .ok none := by
  have digits {n : Nat} (small : n < 0x10000) (single : isLowSurrogate n = false) {rest : Text}
      (more : rest ≠ []) : secondHalf? (0x5C :: 0x75 :: hexPadded 4 n ++ rest) = .ok none := by
    rw [List.cons_append, List.cons_append, secondHalf?_of_fourHex? (fourHex?_hexPadded small) more, single]
    rfl
  unfold asciiCharacter
  cases escape : controlEscape? d with
  | some e =>
    rcases controlEscape?_cases escape with ⟨letter, -, apart, rfl⟩ | ⟨control, rfl⟩
    · exact secondHalf?_of_take (by simpa using apart)
    · exact digits (by omega) other more
  | none =>
    obtain ⟨⟨-, apart⟩, -⟩ := plain_of_controlEscape? escape
    have itself : secondHalf? ([d] ++ rest) = .ok none := by
      refine secondHalf?_of_take fun same => apart ?_
      cases rest <;> simp_all
    dsimp only
    split
    · exact itself
    · split
      next small => exact digits small other more
      next large =>
        have bounded : d ≤ 0x10FFFF := bounded
        have high : isLowSurrogate (0xD800 + (d - 0x10000) / 0x400) = false := by
          rw [← Bool.not_eq_true, isLowSurrogate_iff]
          omega
        rw [List.append_assoc]
        exact digits (by omega) high (by simp)

end Json

namespace Text

/-- A text without a first half of a surrogate pair before a second half. -/
def Joined : Text → Prop
  | [] => True
  | c :: s =>
      c ≤ maxCodePoint ∧
        (Json.isHighSurrogate c = true → ∀ d ∈ s.head?, Json.isLowSurrogate d = false) ∧ Joined s

variable {s : Text}

theorem Joined.bounded (joined : s.Joined) : s.Bounded := by
  induction s with
  | nil => simp [Bounded]
  | cons c s ih => exact List.forall_mem_cons.mpr ⟨joined.1, ih joined.2.2⟩

theorem IsScalarValue.not_half {c : CodePoint} (scalar : IsScalarValue c) :
    Json.isHighSurrogate c = false ∧ Json.isLowSurrogate c = false := by
  have apart := scalar.2
  rw [← Bool.not_eq_true, isSurrogate_iff] at apart
  simp only [← Bool.not_eq_true, Json.isHighSurrogate_iff, Json.isLowSurrogate_iff]
  omega

theorem IsUnicode.joined (unicode : s.IsUnicode) : s.Joined := by
  induction s with
  | nil => trivial
  | cons c s ih =>
    have own := unicode c (by simp)
    refine ⟨own.1, fun high => ?_, ih fun d member => unicode d (by simp [member])⟩
    simp [own.not_half.1] at high

end Text
end UrlRules
