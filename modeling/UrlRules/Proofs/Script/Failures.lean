import UrlRules.Proofs.Script.Derivation

/-!
# Why a declared literal cannot be read

A reader fails at a place in what is left of the text, with three exceptions (`Failure.FoundIn`). An escape
of a fixed number of digits that is cut off by the end of the text is blamed on the place where its digits would
have ended. A number too large to be compared with code points, and a decimal integer with too many digits, are
blamed on no place.

So where a declaration gives no value, the name is not declared, or there is a fault after the start of its
declaration, or it is one of these three (`refused_of_declaredLiteral`). All three are met, after whatever else a
text holds (`declaredLiteral_cutOff`, `declaredLiteral_tooLarge`, `declaredLiteral_long`).
-/
namespace UrlRules.Script

open Text

variable {name s t rest digits : Text} {v : Json} {c mark quote : CodePoint} {count : Nat} {n : Int}
variable {failure : Failure}

/-! ## Where readers fail -/

/-- A number is too large to be compared with code points. -/
def Incomparable (n : Int) : Prop := largestNumber < n ∨ n < -largestNumber - 1

/-- Why what is left of a text cannot be read: a fault at a place in it, an escape that is cut off, the number
of an escape in braces, or a run of decimal digits. -/
inductive Failure.FoundIn (s : Text) : Failure → Prop
  | inside {fault : Fault} {left : Nat} (bound : left ≤ s.length) : FoundIn s (.malformed fault left 0)
  | cutOff {mark : CodePoint} {count : Nat} {digits : Text} (listed : (mark, count) ∈ fixedEscapes)
      (last : backslash :: mark :: digits <:+ s) (short : digits.length < count)
      (unread : ∀ c, ¬EscapeDigits digits c) :
      FoundIn s (.malformed (.invalidDigits digits) 0 (count - digits.length))
  | codePoint {digits : Text} {n : Int} (escape : backslash :: 0x75 :: 0x7B :: (digits ++ [0x7D]) <:+: s)
      (value : readInteger 16 digits = .ok n) (large : Incomparable n) : FoundIn s .codePointTooLarge
  | integer {digits : Text} (run : digits <:+: s) (all : AllDigits digits)
      (long : maxDecimalDigits < digits.length) : FoundIn s (.tooManyDigits digits.length)

theorem Failure.FoundIn.of_suffix (found : failure.FoundIn t) (suffix : t <:+ s) : failure.FoundIn s := by
  cases found with
  | inside bound => exact .inside (Nat.le_trans bound suffix.length_le)
  | cutOff listed last short unread => exact .cutOff listed (last.trans suffix) short unread
  | codePoint escape value large => exact .codePoint (escape.trans suffix.isInfix) value large
  | integer run all long => exact .integer (run.trans suffix.isInfix) all long

/-- A fault at the start of what is left. -/
theorem foundIn_of_failAt {α : Type} {fault : Fault} (failed : failAt fault t = (.error failure : Except Failure α))
    (suffix : t <:+ s) : failure.FoundIn s := by
  cases failed
  exact .inside suffix.length_le

/-- A step after a reader fails in what the reader left. -/
theorem foundIn_of_read {α β : Type} {x : Except Failure (α × Text)} {f : α × Text → Except Failure β}
    (failed : (x >>= f) = .error failure) (own : x = .error failure → failure.FoundIn s)
    (suffix : ∀ {a rest}, x = .ok (a, rest) → rest <:+ s)
    (later : ∀ {a rest}, f (a, rest) = .error failure → failure.FoundIn rest) : failure.FoundIn s := by
  rcases bind_eq_error.mp failed with unread | ⟨⟨a, rest⟩, read, ended⟩
  · exact own unread
  · exact (later ended).of_suffix (suffix read)

/-! ## Tokens -/

theorem skipBlanks_error {fuel : Nat} (failed : skipBlanks fuel s = .error failure) : failure.FoundIn s := by
  induction fuel generalizing s with
  | zero => cases failed
  | succ fuel ih =>
    unfold skipBlanks at failed
    split at failed
    · cases failed
    next c rest =>
      split at failed
      · exact (ih failed).of_suffix (List.suffix_cons c rest)
      split at failed
      · exact (ih failed).of_suffix (suffix_afterLine (c :: rest))
      split at failed
      · split at failed
        · exact foundIn_of_failAt failed List.suffix_rfl
        next after found =>
          obtain ⟨body, -, same⟩ := exists_of_afterComment? found
          have ended : after <:+ (c :: rest).drop 2 := ⟨body ++ endMark, by rw [same, List.append_assoc]⟩
          exact (ih failed).of_suffix (ended.trans (List.drop_suffix 2 _))
      · cases failed

theorem skip_error (failed : skip s = .error failure) : failure.FoundIn s := skipBlanks_error failed

theorem suffix_of_skip (skipped : skip s = .ok rest) : rest <:+ s := by
  rcases skip_ok skipped with ⟨g, -, rfl, -⟩ | ⟨rfl, -⟩
  · exact List.suffix_append g rest
  · exact List.nil_suffix

/-- A step after skipping fails in what is left after the gap. -/
theorem foundIn_of_skip {α : Type} {f : Text → Except Failure α} (failed : (skip s >>= f) = .error failure)
    (later : ∀ {after}, f after = .error failure → failure.FoundIn after) : failure.FoundIn s := by
  rcases bind_eq_error.mp failed with unclosed | ⟨after, skipped, ended⟩
  · exact skip_error unclosed
  · exact (later ended).of_suffix (suffix_of_skip skipped)

theorem characterOf_error {left past : Nat} (failed : characterOf digits left past = .error failure) :
    (∀ c, ¬EscapeDigits digits c) ∧ (failure = .malformed (.invalidDigits digits) left past ∨
      failure = .codePointTooLarge ∧ ∃ n, readInteger 16 digits = .ok n ∧ Incomparable n) := by
  refine ⟨fun c given => ?_, ?_⟩
  · rw [characterOf_eq_ok.mpr given] at failed
    cases failed
  · unfold characterOf at failed
    split at failed
    · exact .inl (Except.error.inj failed).symm
    next n value =>
      split at failed
      next large => exact .inr ⟨(Except.error.inj failed).symm, n, value, large⟩
      next =>
        split at failed
        · cases failed
        · exact .inl (Except.error.inj failed).symm

/-- A few digits write no number that is too large. -/
theorem comparable_of_short (size : digits.length ≤ 4) (value : readInteger 16 digits = .ok n) :
    ¬Incomparable n := by
  have small := natAbs_lt_of_readInteger (by decide) value
  have power : 16 ^ digits.length ≤ 16 ^ 4 := Nat.pow_le_pow_right (by decide) size
  unfold Incomparable largestNumber
  omega

theorem fixedEscapes_few : ∀ p ∈ fixedEscapes, p.2 ≤ 4 := by decide

/-- Only the end of the text puts the fault of an escape of a fixed number of digits beyond it. -/
theorem readFixed_error (listed : (mark, count) ∈ fixedEscapes) (failed : readFixed count s = .error failure) :
    failure.FoundIn (backslash :: mark :: s) := by
  have few : count ≤ 4 := fixedEscapes_few _ listed
  rcases bind_eq_error.mp failed with unread | ⟨c, -, none⟩
  · rcases characterOf_error unread with ⟨none, rfl | ⟨-, n, value, large⟩⟩
    · rcases Nat.lt_or_ge s.length count with short | enough
      · rw [List.take_of_length_le (Nat.le_of_lt short)] at none ⊢
        rw [List.drop_eq_nil_of_le (Nat.le_of_lt short)]
        exact .cutOff listed List.suffix_rfl short none
      · rw [Nat.sub_eq_zero_of_le enough]
        refine .inside (Nat.le_trans (List.drop_suffix count s).length_le ?_)
        simp only [List.length_cons]
        omega
    · exact absurd large (comparable_of_short (Nat.le_trans (List.length_take_le count s) few) value)
  · cases none

theorem readEscape_error (failed : readEscape s = .error failure) : failure.FoundIn (backslash :: s) := by
  unfold readEscape at failed
  split at failed
  · exact foundIn_of_failAt failed List.nil_suffix
  next c s =>
    split at failed
    · cases failed
    split at failed
    · cases failed
    split at failed
    next same => exact same ▸ readFixed_error (by decide) failed
    split at failed
    next same =>
      subst same
      split at failed
      next inner =>
        split at failed
        · exact foundIn_of_failAt failed ((List.suffix_cons ..).trans (List.suffix_cons ..))
        next digits after pieces =>
          have whole := eq_of_cut pieces
          rcases bind_eq_error.mp failed with unread | ⟨d, -, none⟩
          · rcases (characterOf_error unread).2 with rfl | ⟨rfl, n, value, large⟩
            · refine .inside ?_
              simp only [whole, List.length_cons, List.length_append]
              omega
            · exact .codePoint ⟨[], after, by simp [whole]⟩ value large
          · cases none
      next => exact readFixed_error (by decide) failed
    next => cases failed

theorem suffix_of_readEscape {given : Text} (read : readEscape s = .ok (given, rest)) : rest <:+ s := by
  have fixed {count : Nat} {t : Text} (read : readFixed count t = .ok (given, rest)) : rest <:+ t := by
    obtain ⟨c, -, ended⟩ := bind_eq_ok.mp read
    obtain ⟨-, rfl⟩ := Prod.mk.inj (Except.ok.inj ended)
    exact List.drop_suffix count t
  unfold readEscape at read
  split at read
  · cases read
  next c s =>
    refine List.IsSuffix.trans ?_ (List.suffix_cons c s)
    split at read
    · cases read
      exact List.suffix_rfl
    split at read
    · cases read
      exact List.suffix_rfl
    split at read
    · exact fixed read
    split at read
    · split at read
      next inner =>
        split at read
        · cases read
        next digits after pieces =>
          obtain ⟨d, -, ended⟩ := bind_eq_ok.mp read
          obtain ⟨-, rfl⟩ := Prod.mk.inj (Except.ok.inj ended)
          exact ⟨0x7B :: (digits ++ [0x7D]), by simp [eq_of_cut pieces]⟩
      next => exact fixed read
    · cases read
      exact List.suffix_rfl

/-- A text that does not end is blamed on its opening quote. -/
theorem readCharacters_error {opened fuel : Nat} {read : Text}
    (failed : readCharacters quote opened fuel read s = .error failure) :
    failure = .malformed .unterminatedText opened 0 ∨ failure.FoundIn s := by
  induction fuel generalizing read s with
  | zero => exact .inl (Except.error.inj failed).symm
  | succ fuel ih =>
    unfold readCharacters at failed
    split at failed
    · exact .inl (Except.error.inj failed).symm
    next c rest =>
      split at failed
      · cases failed
      split at failed
      next slash =>
        rcases bind_eq_error.mp failed with escape | ⟨⟨given, after⟩, escaped, later⟩
        · exact .inr (slash ▸ readEscape_error escape)
        · refine (ih later).imp id fun found => found.of_suffix ?_
          exact (suffix_of_readEscape escaped).trans (List.suffix_cons c rest)
      split at failed
      · exact .inr (foundIn_of_failAt failed List.suffix_rfl)
      split at failed
      · exact .inl (Except.error.inj failed).symm
      · exact (ih failed).imp id fun found => found.of_suffix (List.suffix_cons c rest)

theorem readText_error (failed : readText quote s = .error failure) : failure.FoundIn (quote :: s) := by
  rcases readCharacters_error failed with rfl | found
  · exact .inside (Nat.le_refl _)
  · exact found.of_suffix (List.suffix_cons quote s)

/-- A number that cannot be read is a long run of decimal digits after a sign. -/
theorem numberOf_error {token : Text} (number : NumberToken token) (failed : numberOf token = .error failure) :
    ∃ digits, digits <:+: token ∧ AllDigits digits ∧ maxDecimalDigits < digits.length ∧
      failure = .tooManyDigits digits.length := by
  cases number with
  | hex mark isLetter some all =>
    obtain ⟨n, number⟩ := digits_of_each 16 some all
    rw [numberOf_integer (.hex mark isLetter number)] at failed
    cases failed
  | @decimal sign mantissa exponent mark number scale =>
    by_cases marked : 0x2E ∈ mantissa ∨ exponent ≠ []
    · rw [numberOf_marked mark number scale marked] at failed
      cases failed
    · obtain ⟨pointless, rfl⟩ : 0x2E ∉ mantissa ∧ exponent = [] := by simpa [not_or] using marked
      cases number with
      | pointed => exact absurd (by simp) pointless
      | whole some all =>
        rw [List.append_nil, numberOf_decimal mark some all, decimal_of_digits all] at failed
        split at failed
        next long => exact ⟨mantissa, ⟨sign, [], by simp⟩, all, long, (Except.error.inj failed).symm⟩
        next => cases failed

theorem readScalar_error (failed : readScalar s = .error failure) : failure.FoundIn s := by
  unfold readScalar at failed
  split at failed
  · exact foundIn_of_failAt failed List.suffix_rfl
  next c s =>
    split at failed
    · rcases bind_eq_error.mp failed with unread | ⟨_, -, none⟩
      · exact readText_error unread
      · cases none
    split at failed
    · rcases bind_eq_error.mp failed with unread | ⟨_, -, none⟩
      · unfold readRegex at unread
        split at unread
        · exact foundIn_of_failAt unread List.suffix_rfl
        · cases unread
      · cases none
    dsimp only at failed
    split at failed
    next digit =>
      rcases bind_eq_error.mp failed with unread | ⟨_, -, none⟩
      · obtain ⟨token, after, same, size, isToken⟩ := numberLength_ne_zero digit
        rw [size, same, List.take_left] at unread
        obtain ⟨digits, run, all, long, rfl⟩ := numberOf_error isToken unread
        exact .integer (run.trans ⟨[], after, same.symm⟩) all long
      · cases none
    next =>
      split at failed
      · cases failed
      · exact foundIn_of_failAt failed List.suffix_rfl

theorem readKey_error (failed : readKey s = .error failure) : failure.FoundIn s := by
  unfold readKey at failed
  split at failed
  · exact foundIn_of_failAt failed List.suffix_rfl
  next c s =>
    split at failed
    · exact readText_error failed
    · extract_lets name size at failed
      split at failed
      · exact foundIn_of_failAt failed List.suffix_rfl
      · cases failed

theorem suffix_of_readKey (read : readKey s = .ok (name, rest)) : rest <:+ s := by
  obtain ⟨k, -, rfl⟩ := readKey_ok read
  exact List.suffix_append k rest

theorem expect_error (failed : expect c s = .error failure) : failure.FoundIn s := by
  refine foundIn_of_skip failed fun ended => ?_
  split at ended
  · exact foundIn_of_failAt ended List.suffix_rfl
  · split at ended
    · cases ended
    · exact foundIn_of_failAt ended List.suffix_rfl

theorem suffix_of_expect (taken : expect c s = .ok rest) : rest <:+ s := by
  obtain ⟨g, -, rfl⟩ := expect_ok taken
  exact ⟨g ++ [c], by simp⟩

/-! ## Values -/

theorem suffix_of_readValue {fuel : Nat} (read : readValue fuel s = .ok (v, rest)) : rest <:+ s := by
  obtain ⟨g, t, -, -, rfl⟩ := readValue_ok read
  exact ⟨g ++ t, by rw [List.append_assoc]⟩

mutual

theorem readValue_error {fuel : Nat} {s : Text} (failed : readValue fuel s = .error failure) :
    failure.FoundIn s := by
  cases fuel with
  | zero => exact foundIn_of_failAt failed List.suffix_rfl
  | succ fuel =>
    refine foundIn_of_skip failed fun ended => ?_
    split at ended
    next => exact (readFields_error ended).of_suffix (List.suffix_cons ..)
    next => exact (readItems_error ended).of_suffix (List.suffix_cons ..)
    next => exact readScalar_error ended

theorem readItems_error {fuel : Nat} {s : Text} {before : List Json}
    (failed : readItems fuel before s = .error failure) : failure.FoundIn s := by
  cases fuel with
  | zero => exact foundIn_of_failAt failed List.suffix_rfl
  | succ fuel =>
    refine foundIn_of_skip failed fun ended => ?_
    split at ended
    next => cases ended
    next => exact foundIn_of_failAt ended List.suffix_rfl
    next =>
      refine foundIn_of_read ended (fun item => readValue_error item) suffix_of_readValue fun later => ?_
      refine foundIn_of_skip later fun last => ?_
      split at last
      next => exact (readItems_error last).of_suffix (List.suffix_cons ..)
      next => cases last
      next => exact foundIn_of_failAt last List.suffix_rfl

theorem readFields_error {fuel : Nat} {s : Text} {before : List (Text × Json)}
    (failed : readFields fuel before s = .error failure) : failure.FoundIn s := by
  cases fuel with
  | zero => exact foundIn_of_failAt failed List.suffix_rfl
  | succ fuel =>
    refine foundIn_of_skip failed fun ended => ?_
    split at ended
    next => cases ended
    next =>
      refine foundIn_of_read ended readKey_error suffix_of_readKey fun keyed => ?_
      rcases bind_eq_error.mp keyed with mark | ⟨inner, marked, valued⟩
      · exact expect_error mark
      refine Failure.FoundIn.of_suffix ?_ (suffix_of_expect marked)
      refine foundIn_of_read valued (fun item => readValue_error item) suffix_of_readValue fun later => ?_
      refine foundIn_of_skip later fun last => ?_
      split at last
      next => exact (readFields_error last).of_suffix (List.suffix_cons ..)
      next => cases last
      next => exact foundIn_of_failAt last List.suffix_rfl

end

theorem readInitializer_error (failed : readInitializer s = .error failure) : failure.FoundIn s := by
  refine foundIn_of_read failed readValue_error suffix_of_readValue fun later => ?_
  refine foundIn_of_skip later fun ended => ?_
  dsimp only at ended
  split at ended
  · cases ended
  · split at ended
    · cases ended
    · exact foundIn_of_failAt ended List.suffix_rfl

/-! ## Declarations -/

/-- Why a declaration gives no value. Only an escape that is cut off puts a fault beyond the end of the text, and
only two numbers put it nowhere. -/
inductive Refused (name text : Text) : Error → Prop
  | undeclared (missing : ∀ position, ¬DeclaresAt name text position) : Refused name text (.notDeclared name)
  | fault {fault : Fault} {start position : Nat} (declared : DeclaresAt name text start)
      (after : start < position) (bound : position ≤ text.length) : Refused name text (.malformed fault position)
  | cutOff {start count : Nat} {mark : CodePoint} {digits : Text} (declared : DeclaresAt name text start)
      (listed : (mark, count) ∈ fixedEscapes) (last : backslash :: mark :: digits <:+ text.drop start)
      (short : digits.length < count) (unread : ∀ c, ¬EscapeDigits digits c) :
      Refused name text (.malformed (.invalidDigits digits) (text.length + (count - digits.length)))
  | codePoint {start : Nat} {digits : Text} {n : Int} (declared : DeclaresAt name text start)
      (escape : backslash :: 0x75 :: 0x7B :: (digits ++ [0x7D]) <:+: text.drop start)
      (value : readInteger 16 digits = .ok n) (large : Incomparable n) : Refused name text .codePointTooLarge
  | integer {start : Nat} {digits : Text} (declared : DeclaresAt name text start)
      (run : digits <:+: text.drop start) (all : AllDigits digits) (long : maxDecimalDigits < digits.length) :
      Refused name text (.tooManyDigits digits.length)

/-- What is read of a declaration is its end, and does not start where it starts. -/
theorem Declares.suffix {after : Text} (declares : Declares name s after) :
    after.dropWhile isBlank <:+ s ∧ (after.dropWhile isBlank).length < s.length := by
  have shorter := (List.dropWhile_suffix (p := isBlank) (l := after)).length_le
  obtain ⟨declarator, -, g, g', -, -, rfl⟩ := declares
  constructor
  · exact (List.dropWhile_suffix _).trans ⟨declarator ++ (g ++ (name ++ (g' ++ [0x3D]))), by simp⟩
  · simp only [List.length_append, List.length_cons]
    omega

/-- A failure of what a declaration is followed by. -/
theorem Failure.FoundIn.refused {text : Text} {start : Nat} (declared : DeclaresAt name text start)
    (found : failure.FoundIn rest) (suffix : rest <:+ text.drop start)
    (shorter : rest.length < (text.drop start).length) :
    Refused name text (failure.toError text.length) := by
  rw [List.length_drop] at shorter
  cases found with
  | inside bound => exact .fault declared (by omega) (by omega)
  | cutOff listed last short unread => exact .cutOff declared listed (last.trans suffix) short unread
  | codePoint escape value large => exact .codePoint declared (escape.trans suffix.isInfix) value large
  | integer run all long => exact .integer declared (run.trans suffix.isInfix) all long

/-- Where a declaration gives no value, it is for one of these reasons. -/
theorem refused_of_declaredLiteral {text : Text} {e : Error} (failed : declaredLiteral text name = .error e) :
    Refused name text e := by
  unfold declaredLiteral at failed
  split at failed
  next missing =>
    obtain rfl := (Except.error.inj failed).symm
    refine .undeclared fun position => ?_
    simpa using findDeclaration?_eq_none [] missing position
  next rest found =>
    split at failed
    · cases failed
    next failure unread =>
      obtain rfl := (Except.error.inj failed).symm
      obtain ⟨before, s, after, rfl, boundary, declares, rfl, -⟩ := findDeclaration?_eq_some [] found
      have same : (before ++ s).drop before.length = s := List.drop_left
      have declared : DeclaresAt name (before ++ s) before.length := ⟨by simpa using boundary, after, by rwa [same]⟩
      obtain ⟨suffix, shorter⟩ := declares.suffix
      exact (readInitializer_error unread).refused declared (by rwa [same]) (by rwa [same])

/-- A fault two characters beyond the end of the text, and two numbers that are blamed on no place. -/
theorem refused_of_declaredLiteral_strays :
    (declaredLiteral (Text.of "const a = \"\\x") (Text.of "a") = .error (.malformed (.invalidDigits []) 15) ∧
        Refused (Text.of "a") (Text.of "const a = \"\\x") (.malformed (.invalidDigits []) 15)) ∧
      (declaredLiteral (Text.of "const a = \"\\u\x7b80000000\x7d\"") (Text.of "a") = .error .codePointTooLarge ∧
        Refused (Text.of "a") (Text.of "const a = \"\\u\x7b80000000\x7d\"") .codePointTooLarge) ∧
      (declaredLiteral (Text.of "const a =" ++ List.replicate 4301 0x31) (Text.of "a") =
          .error (.tooManyDigits 4301) ∧
        Refused (Text.of "a") (Text.of "const a =" ++ List.replicate 4301 0x31) (.tooManyDigits 4301)) := by
  have cutOff : declaredLiteral (Text.of "const a = \"\\x") (Text.of "a") =
      .error (.malformed (.invalidDigits []) 15) := by decide +kernel
  have large : declaredLiteral (Text.of "const a = \"\\u\x7b80000000\x7d\"") (Text.of "a") =
      .error .codePointTooLarge := by decide +kernel
  have size : (List.replicate 4301 (0x31 : CodePoint)).length = 4301 := List.length_replicate
  have ones : AllDigits (List.replicate 4301 0x31) := fun c member => by
    rw [List.eq_of_mem_replicate member]
    decide
  have long := declaredLiteral_long (List.ne_nil_of_length_pos (by rw [size]; decide)) ones (by rw [size]; decide)
  rw [size] at long
  exact ⟨⟨cutOff, refused_of_declaredLiteral cutOff⟩, ⟨large, refused_of_declaredLiteral large⟩,
    ⟨long, refused_of_declaredLiteral long⟩⟩

/-! ## Refusals that are met -/

theorem characterOf_unread {left past : Nat} (few : digits.length ≤ 4) (unread : ∀ c, ¬EscapeDigits digits c) :
    characterOf digits left past = .error (.malformed (.invalidDigits digits) left past) := by
  cases result : characterOf digits left past with
  | ok c => exact absurd (characterOf_eq_ok.mp result) (unread c)
  | error failure =>
    rcases (characterOf_error result).2 with rfl | ⟨-, n, value, large⟩
    · rfl
    · exact absurd large (comparable_of_short few value)

theorem readScalar_escape {body : Text} (isQuote : quote ∈ quotes) (spelled : SpellsText quote body t)
    (failed : readEscape rest = .error failure) :
    readScalar (quote :: (body ++ backslash :: rest)) = .error failure := by
  rw [readScalar_quote isQuote, readText_escape isQuote spelled failed]
  rfl

/-- An escape of a fixed number of digits that the end of the text cuts off is blamed on a place beyond the end,
unless what is left of its digits is a number. -/
theorem declaredLiteral_cutOff {body : Text} (isQuote : quote ∈ quotes) (spelled : SpellsText quote body t)
    (listed : (mark, count) ∈ fixedEscapes) (short : digits.length < count) (unread : ∀ c, ¬EscapeDigits digits c)
    (unbraced : ∀ c ∈ digits.head?, c ≠ 0x7B) :
    declaredLiteral (Text.of "const a =" ++ quote :: (body ++ backslash :: mark :: digits)) (Text.of "a") =
      .error (.malformed (.invalidDigits digits)
        ((Text.of "const a =" ++ quote :: (body ++ backslash :: mark :: digits)).length +
          (count - digits.length))) := by
  have failed : readEscape (mark :: digits) =
      .error (.malformed (.invalidDigits digits) 0 (count - digits.length)) := by
    have few : digits.length ≤ 4 := Nat.le_of_lt (Nat.lt_of_lt_of_le short (fixedEscapes_few _ listed))
    rw [readEscape_fixed listed unbraced, readFixed, List.take_of_length_le (Nat.le_of_lt short),
      List.drop_eq_nil_of_le (Nat.le_of_lt short), characterOf_unread few unread]
    rfl
  exact declaredLiteral_unread (opensScalar_quote isQuote _) (readScalar_escape isQuote spelled failed)

/-- A number that is too large to be compared with code points is refused without a place. -/
theorem declaredLiteral_tooLarge {body : Text} (isQuote : quote ∈ quotes) (spelled : SpellsText quote body t)
    (value : readInteger 16 digits = .ok n) (large : Incomparable n) (closed : 0x7D ∉ digits) (rest : Text) :
    declaredLiteral (Text.of "const a =" ++ quote ::
        (body ++ backslash :: 0x75 :: 0x7B :: (digits ++ 0x7D :: rest))) (Text.of "a") =
      .error .codePointTooLarge := by
  have failed : readEscape (0x75 :: 0x7B :: (digits ++ 0x7D :: rest)) = .error .codePointTooLarge := by
    have refused : characterOf digits rest.length 0 = .error .codePointTooLarge := by
      unfold characterOf
      rw [value]
      exact if_pos large
    simp [readEscape, shortEscape?, lineFeed, cut_append closed rest, refused, bind, Except.bind]
  exact declaredLiteral_unread (opensScalar_quote isQuote _) (readScalar_escape isQuote spelled failed)

end UrlRules.Script
