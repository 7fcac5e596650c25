import UrlRules.Proofs.Script.Literals

/-!
# The grammar of what is read

`Derives d (.value v) t` says that a text is one value of the restricted grammar: an object, an array without holes, a
text, a regex literal, a number or one of four words, with gaps between the tokens. It is wider than
`Written`: digits may be those of any script, and an escape may write its number in any way in which an
integer is read. What ends a line is left to a dialect.

In between the texts, comments, regexes and keys stand only numbers, the four words and marks, and
these in an order in which nothing is called, accessed, combined or left out (`Flow`).
-/
namespace UrlRules.Script

open Text

/-- What ends a line, and what may not stand in a regex even after a backslash. -/
structure Dialect where
  breaks : List CodePoint
  unescapable : List CodePoint

/-- Only a line feed ends a line, and a backslash in a regex takes whatever follows it. -/
def lineFeeds : Dialect := ⟨[lineFeed], []⟩

variable {d : Dialect}

/-! ## Texts -/

/-- The digits of an escape are an integer in base sixteen that is a code point. -/
def EscapeDigits (digits : Text) (c : CodePoint) : Prop :=
  readInteger 16 digits = .ok (c : Int) ∧ c ≤ maxCodePoint

/-- What may stand after a backslash, with the characters it gives. -/
inductive EscapeGives : Text → Text → Prop
  | short {letter c : CodePoint} (listed : (letter, c) ∈ shortEscapes) : EscapeGives [letter] [c]
  | lineFeed : EscapeGives [lineFeed] []
  | two {digits : Text} {c : CodePoint} (number : EscapeDigits digits c) (size : digits.length = 2) :
      EscapeGives (0x78 :: digits) [c]
  | four {digits : Text} {c : CodePoint} (number : EscapeDigits digits c) (size : digits.length = 4) :
      EscapeGives (0x75 :: digits) [c]
  | braces {digits : Text} {c : CodePoint} (number : EscapeDigits digits c) (closed : 0x7D ∉ digits) :
      EscapeGives (0x75 :: 0x7B :: (digits ++ [0x7D])) [c]
  | itself {c : CodePoint} (unlisted : c ∉ shortEscapes.map Prod.fst)
      (plain : c ∉ [Text.lineFeed, 0x78, 0x75]) : EscapeGives [c] [c]

/-- What may stand between quotes, with the text it gives. A line break as it is, and a dollar sign before
a brace, may each stand in one kind of quotes only: the first between backticks, the second not there. -/
inductive QuotedBody (d : Dialect) (quote : CodePoint) : Text → Text → Prop
  | nil : QuotedBody d quote [] []
  | raw {c : CodePoint} {body s : Text} (apart : c ≠ quote ∧ c ≠ backslash)
      (inLine : c ∈ d.breaks → quote = backtick)
      (plain : quote = backtick → ¬[0x24, 0x7B] <+: c :: body) (others : QuotedBody d quote body s) :
      QuotedBody d quote (c :: body) (c :: s)
  | escaped {e given body s : Text} (first : EscapeGives e given) (others : QuotedBody d quote body s) :
      QuotedBody d quote (backslash :: (e ++ body)) (given ++ s)

/-! ## Regex literals -/

/-- What may stand between brackets in a regex. -/
inductive ClassBody (d : Dialect) : Text → Prop
  | nil : ClassBody d []
  | plain {c : CodePoint} {s : Text} (apart : c ∉ [backslash, 0x5D]) (inLine : c ∉ d.breaks)
      (others : ClassBody d s) : ClassBody d (c :: s)
  | escaped {c : CodePoint} {s : Text} (allowed : c ∉ d.unescapable) (others : ClassBody d s) :
      ClassBody d (backslash :: c :: s)

/-- What may stand between the slashes of a regex: a slash only after a backslash or between brackets. -/
inductive RegexBody (d : Dialect) : Text → Prop
  | nil : RegexBody d []
  | plain {c : CodePoint} {s : Text} (apart : c ∉ [backslash, 0x5B, 0x2F]) (inLine : c ∉ d.breaks)
      (others : RegexBody d s) : RegexBody d (c :: s)
  | escaped {c : CodePoint} {s : Text} (allowed : c ∉ d.unescapable) (others : RegexBody d s) :
      RegexBody d (backslash :: c :: s)
  | inClass {items s : Text} (inside : ClassBody d items) (others : RegexBody d s) :
      RegexBody d (0x5B :: (items ++ 0x5D :: s))

/-- A regex with its slashes and flags. The body is not empty and starts with no star. -/
inductive RegexText (d : Dialect) : Text → Prop
  | intro {c : CodePoint} {body flags : Text} (items : RegexBody d (c :: body)) (star : c ≠ 0x2A)
      (letters : ∀ c ∈ flags, isAsciiLower c = true) : RegexText d (0x2F :: c :: (body ++ 0x2F :: flags))

/-! ## Numbers and words -/

/-- The digits of a mantissa as one number, and how many of them are places. -/
inductive MantissaValue : Text → Nat → Nat → Prop
  | whole {digits : Text} {n : Nat} (number : Digits digitValue? 10 digits n) : MantissaValue digits n 0
  | pointed {digits places : Text} {n : Nat} (number : Digits digitValue? 10 (digits ++ places) n) :
      MantissaValue (digits ++ 0x2E :: places) n places.length

/-- The power of ten that an exponent gives. -/
inductive ExponentValue : Text → Int → Prop
  | none : ExponentValue [] 0
  | power {letter : CodePoint} {sign digits : Text} {n : Nat} (isLetter : letter ∈ [0x65, 0x45])
      (mark : Sign sign) (number : Digits digitValue? 10 digits n) :
      ExponentValue (letter :: (sign ++ digits)) (signed sign n)

/-- The value of a number: an integer, or the double closest to a number with a point or an exponent. -/
inductive NumberValue : Text → Json → Prop
  | integer {token : Text} {n : Int} (number : IntegerToken token n) : NumberValue token (.int n)
  | decimal {sign mantissa exponent : Text} {n places : Nat} {power : Int} (mark : Sign sign)
      (number : MantissaValue mantissa n places) (scale : ExponentValue exponent power)
      (marked : 0x2E ∈ mantissa ∨ exponent ≠ []) :
      NumberValue (sign ++ (mantissa ++ exponent))
        (.float (Binary64.ofDecimal (sign = [0x2D]) n (power - places)))

/-- The words that may stand for a value. -/
inductive WordValue : Text → Json → Prop
  | null : WordValue (Text.of "null") .null
  | undefined : WordValue (Text.of "undefined") .null
  | true : WordValue (Text.of "true") (.bool true)
  | false : WordValue (Text.of "false") (.bool false)

/-! ## Values -/

/-- A value that is no array and no object. -/
inductive ScalarText (d : Dialect) : Json → Text → Prop
  | text {quote : CodePoint} {body s : Text} (isQuote : quote ∈ quotes)
      (inside : QuotedBody d quote body s) : ScalarText d (.text s) (quote :: (body ++ [quote]))
  | regex {source : Text} (literal : RegexText d source) : ScalarText d (.text source) source
  | number {v : Json} {token : Text} (number : NumberValue token v) : ScalarText d v token
  | word {v : Json} {t : Text} (word : WordValue t v) : ScalarText d v t

/-- The name of a field: an identifier, a number, which stands for its own text, or a text. -/
inductive KeyText (d : Dialect) : Text → Text → Prop
  | identifier {name : Text} (named : Identifier name) : KeyText d name name
  | number {token : Text} (number : NumberToken token) : KeyText d token token
  | text {quote : CodePoint} {body s : Text} (isQuote : quote ∈ [apostrophe, quotationMark])
      (inside : QuotedBody d quote body s) : KeyText d s (quote :: (body ++ [quote]))

/-- What a text is: a value, or what follows the opening mark of one up to its closing mark. -/
inductive Part where
  | value (v : Json)
  | items (items : List Json)
  | fields (fields : List (Text × Json))

/-- A text is one part of a literal. A comma stands only after an item or a field. -/
inductive Derives (d : Dialect) : Part → Text → Prop
  | scalar {v : Json} {t : Text} (scalar : ScalarText d v t) : Derives d (.value v) t
  | list {items : List Json} {t : Text} (inside : Derives d (.items items) t) :
      Derives d (.value (.list items)) (0x5B :: t)
  | object {fields : List (Text × Json)} {t : Text} (inside : Derives d (.fields fields) t) :
      Derives d (.value (.object (Json.ofWrites fields))) (0x7B :: t)
  | noItem {g : Text} (gap : Gap g) : Derives d (.items []) (g ++ [0x5D])
  | lastItem {v : Json} {g t g' : Text} (before : Gap g) (item : Derives d (.value v) t)
      (after : Gap g') : Derives d (.items [v]) (g ++ (t ++ (g' ++ [0x5D])))
  | item {v : Json} {items : List Json} {g t g' others : Text} (before : Gap g)
      (item : Derives d (.value v) t) (after : Gap g') (rest : Derives d (.items items) others) :
      Derives d (.items (v :: items)) (g ++ (t ++ (g' ++ 0x2C :: others)))
  | noField {g : Text} (gap : Gap g) : Derives d (.fields []) (g ++ [0x7D])
  | lastField {name : Text} {v : Json} {g k g₁ g₂ t g' : Text} (before : Gap g)
      (key : KeyText d name k) (colon : Gap g₁) (blank : Gap g₂) (item : Derives d (.value v) t)
      (after : Gap g') :
      Derives d (.fields [(name, v)]) (g ++ (k ++ (g₁ ++ 0x3A :: (g₂ ++ (t ++ (g' ++ [0x7D]))))))
  | field {name : Text} {v : Json} {fields : List (Text × Json)} {g k g₁ g₂ t g' others : Text}
      (before : Gap g) (key : KeyText d name k) (colon : Gap g₁) (blank : Gap g₂)
      (item : Derives d (.value v) t) (after : Gap g') (rest : Derives d (.fields fields) others) :
      Derives d (.fields ((name, v) :: fields))
        (g ++ (k ++ (g₁ ++ 0x3A :: (g₂ ++ (t ++ (g' ++ 0x2C :: others))))))

/-! ## What stands bare -/

/-- A run of gaps, keys, values and marks, from a place where a value has ended (`true`) or not to another.
A value, a key or an opening mark stands only where none has ended, so nothing is called or accessed and no
two values are combined; a comma stands only where one has ended, so nothing is left out. -/
inductive Flow (d : Dialect) : Bool → Text → Bool → Prop
  | nil {ended : Bool} : Flow d ended [] ended
  | gap {ended last : Bool} {g rest : Text} (gap : Gap g) (others : Flow d ended rest last) :
      Flow d ended (g ++ rest) last
  | key {last : Bool} {name k g rest : Text} (key : KeyText d name k) (colon : Gap g)
      (others : Flow d false rest last) : Flow d false (k ++ (g ++ 0x3A :: rest)) last
  | scalar {last : Bool} {v : Json} {t rest : Text} (scalar : ScalarText d v t)
      (others : Flow d true rest last) : Flow d false (t ++ rest) last
  | opening {last : Bool} {c : CodePoint} {rest : Text} (isMark : c ∈ [0x5B, 0x7B])
      (others : Flow d false rest last) : Flow d false (c :: rest) last
  | closing {ended last : Bool} {c : CodePoint} {rest : Text} (isMark : c ∈ [0x5D, 0x7D])
      (others : Flow d true rest last) : Flow d ended (c :: rest) last
  | comma {last : Bool} {rest : Text} (others : Flow d false rest last) :
      Flow d true (0x2C :: rest) last

/-- What is derived flows from where no value has ended to where one has. -/
theorem Derives.flow {part : Part} {t rest : Text} {last : Bool} (derived : Derives d part t)
    (others : Flow d true rest last) : Flow d false (t ++ rest) last := by
  induction derived generalizing rest with
  | scalar scalar => exact .scalar scalar others
  | list _ inside => exact .opening (by decide) (inside others)
  | object _ inside => exact .opening (by decide) (inside others)
  | noItem gap =>
    rw [List.append_assoc]
    exact .gap gap (.closing (by decide) others)
  | lastItem before _ after item =>
    simp only [List.append_assoc]
    exact .gap before (item (.gap after (.closing (by decide) others)))
  | item before _ after _ item more =>
    simp only [List.append_assoc]
    exact .gap before (item (.gap after (.comma (more others))))
  | noField gap =>
    rw [List.append_assoc]
    exact .gap gap (.closing (by decide) others)
  | lastField before key colon blank _ after item =>
    simp only [List.append_assoc, List.cons_append]
    have ending := item (.gap after (.closing (c := 0x7D) (by decide) others))
    exact .gap before (.key key colon (.gap blank ending))
  | field before key colon blank _ after _ item more =>
    simp only [List.append_assoc, List.cons_append]
    have ending := item (.gap after (.comma (more others)))
    exact .gap before (.key key colon (.gap blank ending))

end UrlRules.Script
