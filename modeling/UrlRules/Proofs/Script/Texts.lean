import UrlRules.Proofs.Script.Gaps
import UrlRules.Proofs.Text.Digits

/-!
# Texts and regexes in scripts

A text is spelled between quotes: each character stands as itself where the quotes allow it, or is
written by an escape (`SpellsText`). A regex literal is a body between slashes with flags
(`RegexLiteral`). The readers take all of them, whatever follows the closing quote
(`readText_spelled`), and whatever follows the flags that is no flag (`readRegex_literal`).
-/
namespace UrlRules.Script

open Text

variable {quote : CodePoint} {e s body rest : Text} {c : Nat}

/-! ## Escapes -/

/-- The letters that stand for a control character after a backslash, with that character. -/
def shortEscapes : List (CodePoint × CodePoint) :=
  [(0x6E, 0x0A), (0x74, 0x09), (0x72, 0x0D), (0x62, 0x08), (0x66, 0x0C), (0x76, 0x0B), (0x30, 0x00)]

/-- What may stand after a backslash, with the character it gives. -/
inductive Escape : Text → CodePoint → Prop
  | short {letter c : CodePoint} (listed : (letter, c) ∈ shortEscapes) : Escape [letter] c
  | two {digits : Text} {c : CodePoint} (hex : Digits hexValue? 16 digits c)
      (size : digits.length = 2) : Escape (0x78 :: digits) c
  | four {digits : Text} {c : CodePoint} (hex : Digits hexValue? 16 digits c)
      (size : digits.length = 4) : Escape (0x75 :: digits) c
  | braces {digits : Text} {c : CodePoint} (hex : Digits hexValue? 16 digits c)
      (bounded : c ≤ maxCodePoint) : Escape (0x75 :: 0x7B :: (digits ++ [0x7D])) c
  | itself {c : CodePoint} (unlisted : c ∉ shortEscapes.map Prod.fst)
      (plain : c ∉ [lineFeed, 0x78, 0x75]) : Escape [c] c

theorem shortEscape?_of_mem : ∀ p ∈ shortEscapes, shortEscape? p.1 = some p.2 := by decide

theorem shortEscape?_of_not_mem (unlisted : c ∉ shortEscapes.map Prod.fst) :
    shortEscape? c = none := by
  simp only [shortEscapes, List.map_cons, List.map_nil, List.mem_cons, not_or] at unlisted
  simp [shortEscape?, unlisted]

/-- The digits of an escape give the code point whose number they write. -/
theorem characterOf_eq_ok {digits : Text} {left past : Nat} :
    characterOf digits left past = .ok c ↔ readInteger 16 digits = .ok (c : Int) ∧ c ≤ maxCodePoint := by
  unfold characterOf
  constructor
  · intro read
    split at read
    · cases read
    next n number =>
      split at read
      · cases read
      · split at read
        next valid =>
          obtain rfl := Except.ok.inj read
          have same : (n.toNat : Int) = n := Int.toNat_of_nonneg valid.1
          exact ⟨by rw [same, number], Int.ofNat_le.mp (by rw [same]; exact valid.2)⟩
        · cases read
  · rintro ⟨number, bounded⟩
    have small : ¬(largestNumber < (c : Int) ∨ (c : Int) < -largestNumber - 1) := by
      have : c ≤ 0x10FFFF := bounded
      unfold largestNumber
      omega
    have valid : 0 ≤ (c : Int) ∧ (c : Int) ≤ (maxCodePoint : Int) :=
      ⟨Int.natCast_nonneg c, Int.ofNat_le.mpr bounded⟩
    rw [number]
    dsimp only
    rw [if_neg small, if_pos valid]
    rfl

theorem characterOf_hex {digits : Text} (hex : Digits hexValue? 16 digits c)
    (bounded : c ≤ maxCodePoint) (left past : Nat) : characterOf digits left past = .ok c :=
  characterOf_eq_ok.mpr ⟨readInteger_hex hex, bounded⟩

theorem readFixed_hex {digits : Text} (hex : Digits hexValue? 16 digits c)
    (bounded : c ≤ maxCodePoint) (rest : Text) :
    readFixed digits.length (digits ++ rest) = .ok ([c], rest) := by
  unfold readFixed
  rw [List.take_left, List.drop_left, characterOf_hex hex bounded]
  rfl

/-- At most four digits write a code point. -/
theorem le_maxCodePoint {digits : Text} (hex : Digits hexValue? 16 digits c)
    (size : digits.length ≤ 4) : c ≤ maxCodePoint := by
  have power : 16 ^ digits.length ≤ 16 ^ 4 := Nat.pow_le_pow_right (by decide) size
  have bound : 16 ^ 4 ≤ maxCodePoint := by decide
  exact Nat.le_of_lt (Nat.lt_of_lt_of_le hex.lt (Nat.le_trans power bound))

/-- The letters of escapes that take a fixed number of digits. -/
def fixedEscapes : List (CodePoint × Nat) := [(0x78, 2), (0x75, 4)]

theorem readEscape_fixed {mark : CodePoint} {count : Nat} (listed : (mark, count) ∈ fixedEscapes)
    (unbraced : ∀ c ∈ rest.head?, c ≠ 0x7B) : readEscape (mark :: rest) = readFixed count rest := by
  simp only [fixedEscapes, List.mem_cons, Prod.mk.injEq, List.not_mem_nil, or_false] at listed
  rcases listed with ⟨rfl, rfl⟩ | ⟨rfl, rfl⟩
  · simp [readEscape, shortEscape?, lineFeed]
  · have brace (inner : Text) : rest ≠ 0x7B :: inner := by
      rintro rfl
      exact unbraced 0x7B rfl rfl
    simp [readEscape, shortEscape?, lineFeed]

theorem readEscape_escape (escape : Escape e c) (rest : Text) :
    readEscape (e ++ rest) = .ok ([c], rest) := by
  have unbraced {digits : Text} (hex : Digits hexValue? 16 digits c) :
      ∀ d ∈ (digits ++ rest).head?, d ≠ 0x7B := by
    obtain ⟨digit, digits, rfl⟩ := List.exists_cons_of_ne_nil hex.1
    rintro d ⟨⟩ rfl
    exact hex.apart 0x7B (by decide) (List.mem_cons_self ..)
  cases escape with
  | @short letter c listed =>
    have found : shortEscape? letter = some c := shortEscape?_of_mem (letter, c) listed
    simp [readEscape, found]
  | @two digits c hex size =>
    have listed : (0x78, 2) ∈ fixedEscapes := by decide
    have read := readFixed_hex hex (le_maxCodePoint hex (by omega)) rest
    rw [size] at read
    rw [List.cons_append, readEscape_fixed listed (unbraced hex), read]
  | @four digits c hex size =>
    have listed : (0x75, 4) ∈ fixedEscapes := by decide
    have read := readFixed_hex hex (le_maxCodePoint hex (by omega)) rest
    rw [size] at read
    rw [List.cons_append, readEscape_fixed listed (unbraced hex), read]
  | @braces digits c hex bounded =>
    have closed : cut 0x7D (digits ++ 0x7D :: rest) = (digits, some rest) :=
      cut_append (hex.apart 0x7D (by decide)) rest
    have read := characterOf_hex hex bounded rest.length 0
    simp [readEscape, shortEscape?, lineFeed, closed, read, bind, Except.bind, pure, Except.pure]
  | itself unlisted plain =>
    simp only [List.mem_cons, not_or] at plain
    simp [readEscape, shortEscape?_of_not_mem unlisted, plain]

/-! ## Texts -/

/-- The quotes of texts. -/
def quotes : List CodePoint := [apostrophe, quotationMark, backtick]

/-- The ways to write a text between quotes. Each character stands as itself, or is written by an escape.
A quote and a backslash have to be escaped; so has a line feed except between backticks, where a dollar
sign before a brace has to be. -/
inductive SpellsText (quote : CodePoint) : Text → Text → Prop
  | nil : SpellsText quote [] []
  | raw {c : CodePoint} {body s : Text} (apart : c ≠ quote ∧ c ≠ backslash)
      (inLine : c = lineFeed → quote = backtick)
      (plain : quote = backtick → ¬[0x24, 0x7B] <+: c :: body) (others : SpellsText quote body s) :
      SpellsText quote (c :: body) (c :: s)
  | escaped {e body s : Text} {c : CodePoint} (first : Escape e c)
      (others : SpellsText quote body s) : SpellsText quote (backslash :: (e ++ body)) (c :: s)

/-- A brace that starts a substitution stands inside the text. -/
theorem not_substitution (plain : quote = backtick → ¬[0x24, 0x7B] <+: c :: body)
    (unbraced : ∀ d ∈ rest.head?, d ≠ 0x7B) :
    ¬(quote = backtick ∧ startsWith (c :: (body ++ rest)) [0x24, 0x7B] = true) := by
  rintro ⟨rfl, starts⟩
  rw [startsWith_pair] at starts
  refine plain rfl ?_
  obtain rfl := (List.cons.inj starts).1
  cases body with
  | nil =>
    cases rest with
    | nil => cases starts
    | cons d rest =>
      obtain rfl : d = 0x7B := by simpa using starts
      exact absurd rfl (unbraced _ rfl)
  | cons d body =>
    obtain rfl : d = 0x7B := by simpa using starts
    exact ⟨body, rfl⟩

/-- What spells a text is read as that text, and reading goes on after it. -/
theorem readCharacters_append (isQuote : quote ∈ quotes) (spelled : SpellsText quote body s)
    (opened fuel : Nat) (read : Text) (enough : body.length < fuel) (unbraced : ∀ d ∈ rest.head?, d ≠ 0x7B) :
    ∃ left, readCharacters quote opened fuel read (body ++ rest) =
      readCharacters quote opened (left + 1) (s.reverse ++ read) rest := by
  have open' : backslash ≠ quote := ne_of_mem_of_not_mem isQuote (by decide) |>.symm
  induction spelled generalizing fuel read with
  | nil =>
    obtain ⟨left, rfl⟩ := Nat.exists_eq_add_of_lt enough
    exact ⟨0 + left, rfl⟩
  | @raw c body s apart inLine plain others ih =>
    cases fuel with
    | zero => cases enough
    | succ fuel =>
      simp only [List.length_cons] at enough
      obtain ⟨left, others⟩ := ih fuel (c :: read) (by omega)
      have unended : ¬(c = lineFeed ∧ quote ≠ backtick) := fun ended => ended.2 (inLine ended.1)
      refine ⟨left, ?_⟩
      rw [List.cons_append, readCharacters]
      dsimp only
      rw [if_neg apart.1, if_neg apart.2, if_neg (not_substitution plain unbraced), if_neg unended, others]
      simp
  | @escaped e body s c first others ih =>
    cases fuel with
    | zero => cases enough
    | succ fuel =>
      simp only [List.length_cons, List.length_append] at enough
      obtain ⟨left, others⟩ := ih fuel (c :: read) (by omega)
      have step := readEscape_escape first (body ++ rest)
      refine ⟨left, ?_⟩
      simp only [List.cons_append, List.append_assoc] at step ⊢
      simp [readCharacters, open', step, others, bind, Except.bind]

theorem readText_append (isQuote : quote ∈ quotes) (spelled : SpellsText quote body s)
    (unbraced : ∀ d ∈ rest.head?, d ≠ 0x7B) :
    ∃ left, readText quote (body ++ rest) =
      readCharacters quote ((body ++ rest).length + 1) (left + 1) s.reverse rest := by
  have enough : body.length < (body ++ rest).length + 1 := by
    rw [List.length_append]
    omega
  unfold readText
  obtain ⟨left, taken⟩ := readCharacters_append isQuote spelled _ _ [] enough unbraced
  exact ⟨left, by rw [taken, List.append_nil]⟩

theorem readText_spelled (isQuote : quote ∈ quotes) (spelled : SpellsText quote body s)
    (rest : Text) : readText quote (body ++ quote :: rest) = .ok (s, rest) := by
  have unbraced : ∀ d ∈ (quote :: rest).head?, d ≠ 0x7B := by
    rintro d ⟨⟩
    exact ne_of_mem_of_not_mem isQuote (by decide)
  obtain ⟨left, taken⟩ := readText_append isQuote spelled unbraced
  rw [taken]
  simp [readCharacters]

/-- An escape that cannot be read fails whatever stands before it in the text. -/
theorem readText_escape {failure : Failure} (isQuote : quote ∈ quotes) (spelled : SpellsText quote body s)
    (failed : readEscape rest = .error failure) :
    readText quote (body ++ backslash :: rest) = .error failure := by
  have other : backslash ≠ quote := ne_of_mem_of_not_mem isQuote (by decide) |>.symm
  have unbraced : ∀ d ∈ (backslash :: rest).head?, d ≠ 0x7B := by
    rintro d ⟨⟩
    decide
  obtain ⟨left, taken⟩ := readText_append isQuote spelled unbraced
  rw [taken]
  simp [readCharacters, other, failed, bind, Except.bind]

/-! ## Regex literals -/

/-- What may stand between brackets in a regex: a backslash escapes the next character. -/
inductive ClassItems : Text → Prop
  | nil : ClassItems []
  | plain {c : CodePoint} {s : Text} (apart : c ∉ [backslash, 0x5D, lineFeed])
      (others : ClassItems s) : ClassItems (c :: s)
  | escaped {c : CodePoint} {s : Text} (inLine : c ≠ lineFeed) (others : ClassItems s) :
      ClassItems (backslash :: c :: s)

/-- What may stand between the slashes of a regex: characters, escaped ones, and classes in brackets. -/
inductive RegexItems : Text → Prop
  | nil : RegexItems []
  | plain {c : CodePoint} {s : Text} (apart : c ∉ [backslash, 0x5B, 0x2F, lineFeed])
      (others : RegexItems s) : RegexItems (c :: s)
  | escaped {c : CodePoint} {s : Text} (inLine : c ≠ lineFeed) (others : RegexItems s) :
      RegexItems (backslash :: c :: s)
  | inClass {items s : Text} (inside : ClassItems items) (others : RegexItems s) :
      RegexItems (0x5B :: (items ++ 0x5D :: s))

/-- A regex with its slashes and flags. The body is not empty and starts with no star. -/
inductive RegexLiteral : Text → Prop
  | intro {c : CodePoint} {body flags : Text} (items : RegexItems (c :: body)) (star : c ≠ 0x2A)
      (letters : ∀ c ∈ flags, isAsciiLower c = true) :
      RegexLiteral (0x2F :: c :: (body ++ 0x2F :: flags))

theorem regexLength?_cons {inClass : Bool} (escape : c ≠ backslash) (inLine : c ≠ lineFeed)
    (s : Text) :
    regexLength? inClass (c :: s) =
      if c = 0x5B then (regexLength? true s).map (· + 1)
      else if c = 0x5D then (regexLength? false s).map (· + 1)
      else if c = 0x2F && !inClass then some 1
      else (regexLength? inClass s).map (· + 1) := by
  rw [regexLength?.eq_def]
  dsimp only
  rw [if_neg escape, if_neg inLine]

theorem regexLength?_escaped (inClass : Bool) (c : CodePoint) (s : Text) :
    regexLength? inClass (backslash :: c :: s) = (regexLength? inClass s).map (· + 2) := by
  rw [regexLength?.eq_def]
  rfl

/-- A class is passed as a whole, with its closing bracket. -/
theorem regexLength?_inClass {items : Text} (inside : ClassItems items) (rest : Text) :
    regexLength? true (items ++ 0x5D :: rest) =
      (regexLength? false rest).map (· + (items.length + 1)) := by
  induction inside with
  | nil => rw [List.nil_append, regexLength?_cons (by decide) (by decide)]; rfl
  | @plain c s apart others ih =>
    simp only [List.mem_cons, List.not_mem_nil, or_false, not_or] at apart
    rw [List.cons_append, regexLength?_cons apart.1 apart.2.2, ih]
    simp [apart, Function.comp_def, Nat.add_assoc]
  | @escaped c s inLine others ih =>
    rw [List.cons_append, List.cons_append, regexLength?_escaped, ih]
    simp [Function.comp_def, Nat.add_assoc]

theorem regexLength?_items {body : Text} (items : RegexItems body) (rest : Text) :
    regexLength? false (body ++ 0x2F :: rest) = some (body.length + 1) := by
  induction items with
  | nil => rw [List.nil_append, regexLength?_cons (by decide) (by decide)]; rfl
  | @plain c s apart others ih =>
    simp only [List.mem_cons, List.not_mem_nil, or_false, not_or] at apart
    rw [List.cons_append, regexLength?_cons apart.1 apart.2.2.2, ih]
    simp [apart]
  | @escaped c s inLine others ih =>
    rw [List.cons_append, List.cons_append, regexLength?_escaped, ih]
    simp
  | @inClass items s inside others ih =>
    rw [List.cons_append, regexLength?_cons (by decide) (by decide), if_pos rfl, List.append_assoc,
      List.cons_append, regexLength?_inClass inside, ih]
    simp only [Option.map_some, List.length_cons, List.length_append, Option.some.injEq]
    omega

/-- A regex literal is read to the end of its flags. -/
theorem readRegex_literal {source : Text} (regex : RegexLiteral source)
    (after : ∀ c ∈ rest.head?, isAsciiLower c = false) :
    readRegex (source ++ rest) = .ok (source, rest) := by
  obtain @⟨c, body, flags, items, star, letters⟩ := regex
  have size := regexLength?_items items (flags ++ rest)
  have same : 0x2F :: c :: (body ++ 0x2F :: flags) ++ rest =
      0x2F :: (c :: body ++ 0x2F :: (flags ++ rest)) := by simp
  have opened : (0x2F :: (c :: body ++ 0x2F :: (flags ++ rest))).drop ((c :: body).length + 1 + 1) =
      flags ++ rest := by
    simp
  unfold readRegex
  rw [same, List.drop_one, List.tail_cons, size]
  dsimp only
  rw [opened, takeWhile_append_of_stop letters after]
  have whole : (0x2F :: c :: (body ++ 0x2F :: flags)).length =
      (c :: body).length + 1 + 1 + flags.length := by
    simp only [List.length_cons, List.length_append]
    omega
  rw [← same, ← whole, List.take_left, List.drop_left]

end UrlRules.Script
