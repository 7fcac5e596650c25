import UrlRules.Proofs.Script.Numbers
import UrlRules.Script.Literal

/-!
# What the reader takes for a literal

A `Literal` is a tree of scalars, arrays and objects. `Written l t` says that `t` is a way to write the
literal `l`: with any gaps between its tokens, with or without a comma after the last item, and with each
text in any quotes. The reader takes all of them (`Written.taken`), as it takes whatever is made of scalars and names
that it reads one by one (`readValue_taken`).
-/
namespace UrlRules.Script

open Text

/-- A literal of a script. -/
inductive Literal where
  | null
  | undefined
  | bool (b : Bool)
  | integer (n : Int)
  | text (s : Text)
  | regex (source : Text)
  | list (items : List Literal)
  | object (fields : List (Text × Literal))

mutual

/-- The value of a literal. A regex counts as its text, and of fields with one name the last counts. -/
def Literal.value : Literal → Json
  | .null => .null
  | .undefined => .null
  | .bool b => .bool b
  | .integer n => .int n
  | .text s => .text s
  | .regex source => .text source
  | .list items => .list (valuesOf items)
  | .object fields => .object (Json.ofWrites (writesOf fields))

def valuesOf : List Literal → List Json
  | [] => []
  | item :: items => item.value :: valuesOf items

def writesOf : List (Text × Literal) → List (Text × Json)
  | [] => []
  | (name, item) :: fields => (name, item.value) :: writesOf fields

end

/-- The ways to write a literal that is no array and no object. -/
inductive Scalar : Literal → Text → Prop
  | null : Scalar .null (Text.of "null")
  | undefined : Scalar .undefined (Text.of "undefined")
  | true : Scalar (.bool true) (Text.of "true")
  | false : Scalar (.bool false) (Text.of "false")
  | integer {token : Text} {n : Int} (number : IntegerToken token n) : Scalar (.integer n) token
  | text {quote : CodePoint} {body s : Text} (isQuote : quote ∈ quotes)
      (spelled : SpellsText quote body s) : Scalar (.text s) (quote :: (body ++ [quote]))
  | regex {source : Text} (literal : RegexLiteral source) : Scalar (.regex source) source

/-- The ways to write the name of a field: an identifier, a number, which stands for its own text, or a
text between single or double quotes. -/
inductive WrittenKey : Text → Text → Prop
  | identifier {name : Text} (named : Identifier name) : WrittenKey name name
  | number {token : Text} (number : NumberToken token) : WrittenKey token token
  | text {quote : CodePoint} {body s : Text} (isQuote : quote ∈ [apostrophe, quotationMark])
      (spelled : SpellsText quote body s) : WrittenKey s (quote :: (body ++ [quote]))

mutual

/-- The ways to write a literal. -/
inductive Written : Literal → Text → Prop
  | scalar {l : Literal} {t : Text} (scalar : Scalar l t) : Written l t
  | list {items : List Literal} {t : Text} (inside : WrittenItems items t) :
      Written (.list items) (0x5B :: t)
  | object {fields : List (Text × Literal)} {t : Text} (inside : WrittenFields fields t) :
      Written (.object fields) (0x7B :: t)

/-- The items of an array, with the end of the array. -/
inductive WrittenItems : List Literal → Text → Prop
  | done {g : Text} (gap : Gap g) : WrittenItems [] (g ++ [0x5D])
  | last {l : Literal} {g t g' : Text} (before : Gap g) (item : Written l t) (after : Gap g') :
      WrittenItems [l] (g ++ (t ++ (g' ++ [0x5D])))
  | more {l : Literal} {items : List Literal} {g t g' others : Text} (before : Gap g)
      (item : Written l t) (after : Gap g') (rest : WrittenItems items others) :
      WrittenItems (l :: items) (g ++ (t ++ (g' ++ 0x2C :: others)))

/-- The fields of an object, with the end of the object. -/
inductive WrittenFields : List (Text × Literal) → Text → Prop
  | done {g : Text} (gap : Gap g) : WrittenFields [] (g ++ [0x7D])
  | last {name : Text} {l : Literal} {g k g₁ g₂ t g' : Text} (before : Gap g)
      (key : WrittenKey name k) (colon : Gap g₁) (blank : Gap g₂) (item : Written l t)
      (after : Gap g') :
      WrittenFields [(name, l)] (g ++ (k ++ (g₁ ++ 0x3A :: (g₂ ++ (t ++ (g' ++ [0x7D]))))))
  | more {name : Text} {l : Literal} {fields : List (Text × Literal)} {g k g₁ g₂ t g' others : Text}
      (before : Gap g) (key : WrittenKey name k) (colon : Gap g₁) (blank : Gap g₂)
      (item : Written l t) (after : Gap g') (rest : WrittenFields fields others) :
      WrittenFields ((name, l) :: fields)
        (g ++ (k ++ (g₁ ++ 0x3A :: (g₂ ++ (t ++ (g' ++ 0x2C :: others))))))

end

variable {l : Literal} {v : Json} {t g k s name rest : Text} {c : Nat}

/-! ## Starts of tokens -/

/-- A sign, a digit or a point. -/
def StartsNumber (c : CodePoint) : Prop := c ∈ [0x2B, 0x2D] ∨ isDigit c = true ∨ c = 0x2E

instance (c : CodePoint) : Decidable (StartsNumber c) := inferInstanceAs (Decidable (_ ∨ _ ∨ _))

/-- The characters that start what is neither a number nor an identifier: brackets, braces, the comma, the
slash and the quotes. -/
def punctuation : List CodePoint :=
  [0x7B, 0x5B, 0x5D, 0x7D, 0x2C, 0x2F, apostrophe, quotationMark, backtick]

theorem NumberToken.start {token : Text} (number : NumberToken token) :
    ∃ c s, token = c :: s ∧ StartsNumber c := by
  have signed {sign s : Text} (mark : Sign sign) (start : ∃ c s', s = c :: s' ∧ StartsNumber c) :
      ∃ c s', sign ++ s = c :: s' ∧ StartsNumber c := by
    cases mark with
    | none => exact start
    | plus => exact ⟨_, _, rfl, .inl (by decide)⟩
    | minus => exact ⟨_, _, rfl, .inl (by decide)⟩
  cases number with
  | hex mark isLetter some all => exact signed mark ⟨_, _, rfl, .inr (.inl (by decide))⟩
  | @decimal sign mantissa exponent mark number scale =>
    obtain ⟨some, each⟩ := number.each
    obtain ⟨c, mantissa, rfl⟩ := List.exists_cons_of_ne_nil some
    exact signed mark ⟨_, _, rfl, .inr (each c (by simp))⟩

theorem StartsNumber.apart (start : StartsNumber c) :
    isBlank c = false ∧ c ∉ punctuation ∧ isIdentifierStart c = false := by
  refine ⟨?_, fun mark => ?_, ?_⟩
  · rw [← Bool.not_eq_true]
    intro blank
    obtain ⟨digit, -, point⟩ := apart_of_blank blank
    rcases start with sign | start | start
    · rcases List.mem_pair.mp sign with rfl | rfl <;> exact absurd blank (by decide)
    · rw [digit] at start
      cases start
    · exact point start
  · have other : ∀ c ∈ punctuation, ¬StartsNumber c := by decide
    exact other c mark start
  · rcases start with sign | start
    · rcases List.mem_pair.mp sign with rfl | rfl <;> decide
    · exact (apart_of_digit start).2

theorem apart_of_isIdentifierStart (start : isIdentifierStart c = true) :
    isBlank c = false ∧ c ∉ punctuation ∧ ¬StartsNumber c := by
  refine ⟨?_, fun mark => ?_, fun number => ?_⟩
  · rw [← Bool.not_eq_true]
    intro blank
    have part := (apart_of_blank blank).2.1
    simp [isIdentifierPart, start] at part
  · have other : ∀ c ∈ punctuation, isIdentifierStart c = false := by decide
    exact absurd start (by simp [other c mark])
  · exact absurd start (by simp [number.apart.2.2])

/-- A character that starts a token is not skipped, except for a slash that opens a comment. -/
theorem solid_of_apart (visible : isBlank c = false) (other : c ∉ punctuation) (s : Text) :
    Solid (c :: s) :=
  solid_cons visible (fun slash => other (by rw [slash]; decide)) s

/-! ## Scalars -/

theorem readScalar_quote {quote : CodePoint} (isQuote : quote ∈ quotes) (s : Text) :
    readScalar (quote :: s) = (readText quote s).map fun (t, rest) => (.text t, rest) := by
  have isQuote' : quote = apostrophe ∨ quote = quotationMark ∨ quote = backtick := by
    simpa [quotes] using isQuote
  unfold readScalar
  dsimp only
  rw [if_pos isQuote']
  cases readText quote s <;> rfl

theorem readScalar_text {quote : CodePoint} {body : Text} (isQuote : quote ∈ quotes)
    (spelled : SpellsText quote body s) (rest : Text) :
    readScalar (quote :: (body ++ quote :: rest)) = .ok (.text s, rest) := by
  rw [readScalar_quote isQuote, readText_spelled isQuote spelled]
  rfl

/-- What may follow a token is no flag. -/
theorem Stops.no_flag (stops : Stops rest) : ∀ c ∈ rest.head?, isAsciiLower c = false := by
  intro c first
  have part := (stops.apart c first).2.1
  simp only [isIdentifierPart, isIdentifierStart, isAsciiLetter, Bool.or_eq_false_iff] at part
  exact part.1.1.1.1

theorem readScalar_regex {source : Text} (regex : RegexLiteral source) (stops : Stops rest) :
    readScalar (source ++ rest) = .ok (.text source, rest) := by
  have read := readRegex_literal regex stops.no_flag
  obtain @⟨c, body, flags, items, star, letters⟩ := regex
  unfold readScalar
  simp only [List.cons_append] at read ⊢
  rw [if_neg (by decide), if_pos trivial, read]
  rfl

theorem readScalar_number {token : Text} (number : NumberToken token) (stops : Stops rest) :
    readScalar (token ++ rest) = (numberOf token).map (·, rest) := by
  obtain ⟨some, size⟩ := numberLength_token number stops
  obtain ⟨c, s, rfl, start⟩ := number.start
  have other := start.apart.2.1
  have slash : c ≠ 0x2F := fun slash => other (by rw [slash]; decide)
  have quote : ¬(c = apostrophe ∨ c = quotationMark ∨ c = backtick) := by
    rintro (rfl | rfl | rfl) <;> exact other (by decide)
  have positive : (c :: s).length ≠ 0 := by simp
  unfold readScalar
  simp only [List.cons_append] at size ⊢
  rw [if_neg quote, if_neg slash, size, if_pos positive, ← List.cons_append, List.take_left,
    List.drop_left]
  cases numberOf (c :: s) <;> rfl

theorem readScalar_word {value : Json} (named : Identifier name) (isWord : word? name = some value)
    (stops : Stops rest) : readScalar (name ++ rest) = .ok (value, rest) := by
  have read := identifier_append named stops
  obtain @⟨c, s, start, parts⟩ := named
  obtain ⟨-, other, number⟩ := apart_of_isIdentifierStart start
  have slash : c ≠ 0x2F := fun slash => other (by rw [slash]; decide)
  have quote : ¬(c = apostrophe ∨ c = quotationMark ∨ c = backtick) := by
    rintro (rfl | rfl | rfl) <;> exact other (by decide)
  obtain ⟨sign, digit, point⟩ : c ∉ [0x2B, 0x2D] ∧ isDigit c = false ∧ c ≠ 0x2E := by
    simpa only [StartsNumber, not_or, Bool.not_eq_true] using number
  have none := numberLength_eq_zero sign digit point (s ++ rest)
  unfold readScalar
  simp only [List.cons_append] at read ⊢
  rw [if_neg quote, if_neg slash, none, if_neg (by simp), read]
  simp [isWord]

theorem readScalar_scalar (scalar : Scalar l t) (stops : Stops rest) :
    readScalar (t ++ rest) = .ok (l.value, rest) := by
  have word {name : Text} {value : Json} (isWord : word? name = some value) (named : Identifier name) :
      readScalar (name ++ rest) = .ok (value, rest) := readScalar_word named isWord stops
  cases scalar with
  | null => exact word rfl (.intro (by decide) (by decide))
  | undefined => exact word rfl (.intro (by decide) (by decide))
  | true => exact word rfl (.intro (by decide) (by decide))
  | false => exact word rfl (.intro (by decide) (by decide))
  | integer number =>
    rw [readScalar_number number.numberToken stops, numberOf_integer number]
    rfl
  | text isQuote spelled =>
    rw [List.cons_append, List.append_assoc]
    exact readScalar_text isQuote spelled rest
  | regex literal => exact readScalar_regex literal stops

/-! ## Keys -/

theorem readKey_token (size : Nat) {s : Text} (other : c ∉ punctuation)
    (taken : size = if (identifier (c :: s)).isEmpty then numberLength (c :: s)
      else (identifier (c :: s)).length) (some : size ≠ 0) :
    readKey (c :: s) = .ok ((c :: s).take size, (c :: s).drop size) := by
  have quote : ¬(c = apostrophe ∨ c = quotationMark) := by
    rintro (rfl | rfl) <;> exact other (by decide)
  unfold readKey
  dsimp only
  rw [if_neg quote, ← taken, if_neg some]

theorem readKey_written (key : WrittenKey name k) (stops : Stops rest) :
    readKey (k ++ rest) = .ok (name, rest) := by
  cases key with
  | identifier named =>
    have read := identifier_append named stops
    obtain @⟨c, s, start, parts⟩ := named
    have other := (apart_of_isIdentifierStart start).2.1
    have taken := readKey_token (c :: s).length other (by
      rw [← List.cons_append, read]
      rfl) (by simp)
    rw [← List.cons_append, List.take_left, List.drop_left] at taken
    exact taken
  | number number =>
    obtain ⟨some, size⟩ := numberLength_token number stops
    obtain ⟨c, s, rfl, start⟩ := number.start
    obtain ⟨-, other, noStart⟩ := start.apart
    have taken := readKey_token (c :: s).length other (by
      rw [identifier_eq_nil noStart, ← List.cons_append, size]
      rfl) (by simp)
    rw [← List.cons_append, List.take_left, List.drop_left] at taken
    exact taken
  | @text quote body s isQuote spelled =>
    have isQuote' : quote = apostrophe ∨ quote = quotationMark := List.mem_pair.mp isQuote
    have isQuote : quote ∈ quotes := by
      rcases isQuote' with rfl | rfl <;> decide
    rw [List.cons_append, List.append_assoc, readKey]
    dsimp only
    rw [if_pos isQuote']
    exact readText_spelled isQuote spelled rest

/-! ## Where literals start -/

/-- A token starts here: neither a gap nor an end, a comma or a closing mark. -/
structure Opens (s : Text) : Prop where
  solid : Solid s
  visible : ∀ c ∈ s.head?, c ∉ [0x5D, 0x7D, 0x2C]

theorem opens_of_apart (visible : isBlank c = false) (other : c ∉ punctuation) (s : Text) :
    Opens (c :: s) := by
  refine ⟨solid_of_apart visible other s, fun d first mark => other ?_⟩
  obtain rfl := Option.some.inj first
  have each : ∀ c ∈ [0x5D, 0x7D, 0x2C], c ∈ punctuation := by decide
  exact each c mark

theorem opens_of_mark : ∀ c ∈ [apostrophe, quotationMark, backtick, 0x5B, 0x7B], ∀ s, Opens (c :: s) := by
  intro c mark s
  have apart : ∀ c ∈ [apostrophe, quotationMark, backtick, 0x5B, 0x7B],
      isBlank c = false ∧ c ≠ 0x2F ∧ c ∉ [0x5D, 0x7D, 0x2C] := by decide
  obtain ⟨visible, slash, other⟩ := apart c mark
  refine ⟨solid_cons visible slash s, fun d first => ?_⟩
  obtain rfl := Option.some.inj first
  exact other

/-- A scalar is known by its first character, which opens no array and no object. -/
def OpensScalar (s : Text) : Prop := Opens s ∧ ∀ c ∈ s.head?, c ∉ [0x5B, 0x7B]

theorem opensScalar_of_apart (visible : isBlank c = false) (other : c ∉ punctuation) (s : Text) :
    OpensScalar (c :: s) := by
  refine ⟨opens_of_apart visible other s, fun d first mark => other ?_⟩
  obtain rfl := Option.some.inj first
  have each : ∀ c ∈ [0x5B, 0x7B], c ∈ punctuation := by decide
  exact each c mark

theorem NumberToken.opens {token : Text} (number : NumberToken token) (rest : Text) :
    OpensScalar (token ++ rest) := by
  obtain ⟨c, s, rfl, start⟩ := number.start
  exact opensScalar_of_apart start.apart.1 start.apart.2.1 _

theorem Identifier.opens (named : Identifier name) (rest : Text) : OpensScalar (name ++ rest) := by
  obtain @⟨c, s, start, parts⟩ := named
  obtain ⟨visible, other, -⟩ := apart_of_isIdentifierStart start
  exact opensScalar_of_apart visible other _

theorem opensScalar_quote {quote : CodePoint} (isQuote : quote ∈ quotes) (s : Text) :
    OpensScalar (quote :: s) := by
  have each : ∀ c ∈ quotes, c ∈ [apostrophe, quotationMark, backtick, 0x5B, 0x7B] ∧
      c ∉ [0x5B, 0x7B] := by decide
  refine ⟨opens_of_mark quote (each quote isQuote).1 s, fun d first => ?_⟩
  obtain rfl := Option.some.inj first
  exact (each quote isQuote).2

/-- The slash of a regex opens no comment: the body is not empty and starts with no star. -/
theorem RegexLiteral.opens {source : Text} (regex : RegexLiteral source) (rest : Text) :
    OpensScalar (source ++ rest) := by
  obtain @⟨c, body, flags, items, star, letters⟩ := regex
  have slash : c ≠ 0x2F := by
    rintro rfl
    cases items with
    | plain apart => exact apart (by decide)
  exact ⟨⟨⟨by simp [show isBlank 0x2F = false from rfl], by simp [slash], by simp [star]⟩, by simp⟩, by simp⟩

theorem Scalar.opens (scalar : Scalar l t) (rest : Text) : OpensScalar (t ++ rest) := by
  cases scalar with
  | null => exact Identifier.opens (.intro (by decide) (by decide)) rest
  | undefined => exact Identifier.opens (.intro (by decide) (by decide)) rest
  | true => exact Identifier.opens (.intro (by decide) (by decide)) rest
  | false => exact Identifier.opens (.intro (by decide) (by decide)) rest
  | integer number => exact number.numberToken.opens rest
  | text isQuote spelled => exact opensScalar_quote isQuote _
  | regex literal => exact literal.opens rest

theorem WrittenKey.opens (key : WrittenKey name k) (rest : Text) : Opens (k ++ rest) := by
  cases key with
  | identifier named => exact (named.opens rest).1
  | number number => exact (number.opens rest).1
  | text isQuote spelled =>
    have each : ∀ c ∈ [apostrophe, quotationMark], c ∈ quotes := by decide
    exact (opensScalar_quote (each _ isQuote) _).1

/-! ## Values -/

/-- A text that is taken for a scalar, whatever stops it. -/
structure TakenScalar (v : Json) (t : Text) : Prop where
  opens : ∀ rest, OpensScalar (t ++ rest)
  read : ∀ rest, Stops rest → readScalar (t ++ rest) = .ok (v, rest)

/-- A text that is taken for the name of a field. -/
structure TakenKey (name k : Text) : Prop where
  opens : ∀ rest, Opens (k ++ rest)
  read : ∀ rest, Stops rest → readKey (k ++ rest) = .ok (name, rest)

mutual

/-- Texts that are taken for values: scalars and names of any kind in arrays and objects, with any gaps. -/
inductive Taken : Json → Text → Prop
  | scalar {v : Json} {t : Text} (scalar : TakenScalar v t) : Taken v t
  | list {items : List Json} {t : Text} (inside : TakenItems items t) : Taken (.list items) (0x5B :: t)
  | object {fields : List (Text × Json)} {t : Text} (inside : TakenFields fields t) :
      Taken (.object (Json.ofWrites fields)) (0x7B :: t)

/-- The items of an array, with the end of the array. -/
inductive TakenItems : List Json → Text → Prop
  | done {g : Text} (gap : Gap g) : TakenItems [] (g ++ [0x5D])
  | last {v : Json} {g t g' : Text} (before : Gap g) (item : Taken v t) (after : Gap g') :
      TakenItems [v] (g ++ (t ++ (g' ++ [0x5D])))
  | more {v : Json} {items : List Json} {g t g' others : Text} (before : Gap g) (item : Taken v t) (after : Gap g')
      (rest : TakenItems items others) : TakenItems (v :: items) (g ++ (t ++ (g' ++ 0x2C :: others)))

/-- The fields of an object, with the end of the object. -/
inductive TakenFields : List (Text × Json) → Text → Prop
  | done {g : Text} (gap : Gap g) : TakenFields [] (g ++ [0x7D])
  | last {name : Text} {v : Json} {g k g₁ g₂ t g' : Text} (before : Gap g) (key : TakenKey name k) (colon : Gap g₁)
      (blank : Gap g₂) (item : Taken v t) (after : Gap g') :
      TakenFields [(name, v)] (g ++ (k ++ (g₁ ++ 0x3A :: (g₂ ++ (t ++ (g' ++ [0x7D]))))))
  | more {name : Text} {v : Json} {fields : List (Text × Json)} {g k g₁ g₂ t g' others : Text} (before : Gap g)
      (key : TakenKey name k) (colon : Gap g₁) (blank : Gap g₂) (item : Taken v t) (after : Gap g')
      (rest : TakenFields fields others) :
      TakenFields ((name, v) :: fields) (g ++ (k ++ (g₁ ++ 0x3A :: (g₂ ++ (t ++ (g' ++ 0x2C :: others))))))

end

theorem Taken.opens (taken : Taken v t) (rest : Text) : Opens (t ++ rest) := by
  cases taken with
  | scalar scalar => exact (scalar.opens rest).1
  | list inside => exact opens_of_mark 0x5B (by decide) _
  | object inside => exact opens_of_mark 0x7B (by decide) _

theorem Taken.ne_nil (taken : Taken v t) : t ≠ [] := by
  rintro rfl
  exact (taken.opens [0x5D]).visible 0x5D rfl (by decide)

theorem solid_closing : ∀ c ∈ [0x2C, 0x5D, 0x7D, 0x3A], ∀ s, Solid (c :: s) := by
  intro c mark s
  have apart : ∀ c ∈ [0x2C, 0x5D, 0x7D, 0x3A], isBlank c = false ∧ c ≠ 0x2F := by decide
  exact solid_cons (apart c mark).1 (apart c mark).2 s

/-- A closing mark after a gap. -/
theorem skip_closing (gap : Gap g) (isMark : c ∈ [0x2C, 0x5D, 0x7D, 0x3A]) (s : Text) :
    skip (g ++ c :: s) = .ok (c :: s) := skip_gap_solid gap (solid_closing c isMark s)

/-- What is done after an item: the next one is read, or the array is closed. -/
def afterItem (fuel : Nat) (read : List Json) : Text → Except Failure (Json × Text)
  | 0x2C :: rest => readItems fuel read rest
  | 0x5D :: rest => .ok (.list read.reverse, rest)
  | rest => failAt .expectedInArray rest

/-- What is done after a field: the next one is read, or the object is closed. -/
def afterField (fuel : Nat) (read : List (Text × Json)) : Text → Except Failure (Json × Text)
  | 0x2C :: rest => readFields fuel read rest
  | 0x7D :: rest => .ok (.object (Json.ofWrites read.reverse), rest)
  | rest => failAt .expectedInObject rest

theorem readItems_item (before : Gap g) (opens : Opens s) {fuel : Nat} (read : List Json)
    {value : Json} {next : Text} (first : readValue fuel s = .ok (value, rest))
    (last : skip rest = .ok next) :
    readItems (fuel + 1) read (g ++ s) = afterItem fuel (value :: read) next := by
  have skipped := skip_gap_solid before opens.solid
  have visible := opens.visible
  simp only [readItems, skipped, bind, Except.bind]
  split
  next => exact absurd (visible 0x5D rfl) (by decide)
  next => exact absurd (visible 0x2C rfl) (by decide)
  next =>
    simp only [first, last]
    rfl

theorem readFields_field {g₁ : Text} (before : Gap g) (key : TakenKey name k) (colon : Gap g₁)
    {fuel : Nat} (read : List (Text × Json)) {value : Json} {next : Text}
    (first : readValue fuel s = .ok (value, rest)) (last : skip rest = .ok next) :
    readFields (fuel + 1) read (g ++ (k ++ (g₁ ++ 0x3A :: s))) =
      afterField fuel ((name, value) :: read) next := by
  have opens := key.opens (g₁ ++ 0x3A :: s)
  have skipped := skip_gap_solid before opens.solid
  have visible := opens.visible
  have named := key.read _ (colon.stops (stops_mark (c := 0x3A) (by decide) s))
  have expected : expect 0x3A (g₁ ++ 0x3A :: s) = .ok s := by
    simp [expect, skip_closing colon (c := 0x3A) (by decide) s, bind, Except.bind]
  simp only [readFields, skipped, bind, Except.bind]
  split
  next same => exact absurd (visible 0x7D (by rw [same]; rfl)) (by decide)
  next =>
    simp only [named, expected, first, last]
    rfl

theorem readValue_opensScalar (skipped : skip s = .ok t) (opens : OpensScalar t) (fuel : Nat) :
    readValue (fuel + 1) s = readScalar t := by
  have other := opens.2
  simp only [readValue, skipped, bind, Except.bind]
  split
  next => exact absurd (other 0x7B rfl) (by decide)
  next => exact absurd (other 0x5B rfl) (by decide)
  next => rfl

theorem readValue_bracket {inside : Text} (skipped : skip s = .ok (0x5B :: inside)) (fuel : Nat) :
    readValue (fuel + 1) s = readItems fuel [] inside := by
  simp only [readValue, skipped, bind, Except.bind]

theorem readValue_brace {inside : Text} (skipped : skip s = .ok (0x7B :: inside)) (fuel : Nat) :
    readValue (fuel + 1) s = readFields fuel [] inside := by
  simp only [readValue, skipped, bind, Except.bind]

theorem readItems_done (gap : Gap g) (fuel : Nat) (read : List Json) (rest : Text) :
    readItems (fuel + 1) read (g ++ 0x5D :: rest) = .ok (.list read.reverse, rest) := by
  simp [readItems, skip_closing gap (c := 0x5D) (by decide) rest, bind, Except.bind, pure, Except.pure]

theorem readFields_done (gap : Gap g) (fuel : Nat) (read : List (Text × Json)) (rest : Text) :
    readFields (fuel + 1) read (g ++ 0x7D :: rest) = .ok (.object (Json.ofWrites read.reverse), rest) := by
  simp [readFields, skip_closing gap (c := 0x7D) (by decide) rest, bind, Except.bind, pure, Except.pure]

mutual

/-- Whatever is taken for a value is read as that value, after any gap. The fuel is used up character by character. -/
theorem readValue_taken {v : Json} {t : Text} (taken : Taken v t) {g : Text} (gap : Gap g) (fuel : Nat) (rest : Text)
    (stops : Stops rest) (enough : t.length ≤ fuel) : readValue fuel (g ++ (t ++ rest)) = .ok (v, rest) := by
  have skipped := skip_gap_solid gap (taken.opens rest).solid
  cases fuel with
  | zero => exact absurd (List.length_eq_zero_iff.mp (Nat.le_zero.mp enough)) taken.ne_nil
  | succ fuel =>
    cases taken with
    | scalar scalar => rw [readValue_opensScalar skipped (scalar.opens rest), scalar.read rest stops]
    | @list items t inside =>
      simp only [List.length_cons] at enough
      rw [List.cons_append] at skipped ⊢
      rw [readValue_bracket skipped, readItems_taken inside fuel [] rest (by omega)]
      rfl
    | @object fields t inside =>
      simp only [List.length_cons] at enough
      rw [List.cons_append] at skipped ⊢
      rw [readValue_brace skipped, readFields_taken inside fuel [] rest (by omega)]
      rfl
termination_by fuel

theorem readItems_taken {items : List Json} {t : Text} (taken : TakenItems items t) (fuel : Nat) (read : List Json)
    (rest : Text) (enough : t.length ≤ fuel) :
    readItems fuel read (t ++ rest) = .ok (.list (read.reverse ++ items), rest) := by
  cases fuel with
  | zero => cases taken <;> simp at enough
  | succ fuel =>
    cases taken with
    | @done g gap =>
      rw [List.append_assoc, List.singleton_append, readItems_done gap, List.append_nil]
    | @last v g t g' before item after =>
      simp only [List.length_append, List.length_cons] at enough
      have stops := after.stops (stops_mark (c := 0x5D) (by decide) rest)
      have opens := item.opens (g' ++ 0x5D :: rest)
      have first := readValue_taken item .nil fuel _ stops (by omega)
      have step := readItems_item before opens read first
        (skip_closing after (by decide) rest)
      simp only [List.append_assoc, List.singleton_append]
      rw [step]
      simp [afterItem]
    | @more v items g t g' others before item after more =>
      simp only [List.length_append, List.length_cons] at enough
      have stops := after.stops (stops_mark (c := 0x2C) (by decide) (others ++ rest))
      have opens := item.opens (g' ++ 0x2C :: (others ++ rest))
      have first := readValue_taken item .nil fuel _ stops (by omega)
      have step := readItems_item before opens read first
        (skip_closing after (by decide) (others ++ rest))
      have later := readItems_taken more fuel (v :: read) rest (by omega)
      simp only [List.append_assoc, List.cons_append]
      rw [step]
      simp [afterItem, later]
termination_by fuel

theorem readFields_taken {fields : List (Text × Json)} {t : Text} (taken : TakenFields fields t) (fuel : Nat)
    (read : List (Text × Json)) (rest : Text) (enough : t.length ≤ fuel) :
    readFields fuel read (t ++ rest) = .ok (.object (Json.ofWrites (read.reverse ++ fields)), rest) := by
  cases fuel with
  | zero => cases taken <;> simp at enough
  | succ fuel =>
    cases taken with
    | @done g gap =>
      rw [List.append_assoc, List.singleton_append, readFields_done gap, List.append_nil]
    | @last name v g k g₁ g₂ t g' before key colon blank item after =>
      simp only [List.length_append, List.length_cons] at enough
      have stops := after.stops (stops_mark (c := 0x7D) (by decide) rest)
      have first := readValue_taken item blank fuel _ stops (by omega)
      have step := readFields_field before key colon read first
        (skip_closing after (by decide) rest)
      simp only [List.append_assoc, List.cons_append, List.nil_append]
      rw [step]
      simp [afterField]
    | @more name v fields g k g₁ g₂ t g' others before key colon blank item after more =>
      simp only [List.length_append, List.length_cons] at enough
      have stops := after.stops (stops_mark (c := 0x2C) (by decide) (others ++ rest))
      have first := readValue_taken item blank fuel _ stops (by omega)
      have step := readFields_field before key colon read first
        (skip_closing after (by decide) (others ++ rest))
      have later := readFields_taken more fuel ((name, v) :: read) rest (by omega)
      simp only [List.append_assoc, List.cons_append]
      rw [step]
      simp [afterField, later]
termination_by fuel

end

/-! ## Literals -/

theorem Scalar.taken (scalar : Scalar l t) : TakenScalar l.value t :=
  ⟨scalar.opens, fun _ stops => readScalar_scalar scalar stops⟩

theorem WrittenKey.taken (key : WrittenKey name k) : TakenKey name k :=
  ⟨key.opens, fun _ stops => readKey_written key stops⟩

mutual

/-- Whatever writes a literal is taken for its value. -/
theorem Written.taken : ∀ {l : Literal} {t : Text}, Written l t → Taken l.value t
  | _, _, .scalar scalar => .scalar scalar.taken
  | _, _, .list inside => .list inside.taken
  | _, _, .object inside => .object inside.taken

theorem WrittenItems.taken : ∀ {items : List Literal} {t : Text}, WrittenItems items t → TakenItems (valuesOf items) t
  | _, _, .done gap => .done gap
  | _, _, .last before item after => .last before item.taken after
  | _, _, .more before item after rest => .more before item.taken after rest.taken

theorem WrittenFields.taken :
    ∀ {fields : List (Text × Literal)} {t : Text}, WrittenFields fields t → TakenFields (writesOf fields) t
  | _, _, .done gap => .done gap
  | _, _, .last before key colon blank item after => .last before key.taken colon blank item.taken after
  | _, _, .more before key colon blank item after rest =>
    .more before key.taken colon blank item.taken after rest.taken

end

end UrlRules.Script
