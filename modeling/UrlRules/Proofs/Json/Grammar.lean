import UrlRules.Proofs.Json.Reading
import UrlRules.Proofs.Text.Digits

/-!
# The grammar of JSON

`Document d t` says that a text is written as RFC 8259 has it, with the tree of what it writes. A text between
quotation marks is kept in pieces, since two readers need not agree on what its pieces give: by `joined` two escapes
by number that are the halves of a surrogate pair are one character, by `singly` they are two. Where no such pair is
written both give the same value (`value_of_unpaired`). Integers have no more digits than are converted.
-/
namespace UrlRules.Json

open Text

/-! ## Texts -/

/-- A character that is written in a text, and whether it is written by its number. -/
structure Piece where
  c : CodePoint
  byNumber : Bool

/-- The letters of escapes, with the characters they give. -/
def letterEscapes : List (CodePoint × CodePoint) :=
  [(0x22, 0x22), (0x5C, 0x5C), (0x2F, 0x2F), (0x62, 0x08), (0x66, 0x0C), (0x6E, 0x0A), (0x72, 0x0D), (0x74, 0x09)]

/-- What may stand between quotation marks. Control characters, quotation marks and backslashes do not stand there as
they are. -/
inductive Spelling : Text → List Piece → Prop
  | nil : Spelling [] []
  | itself {c : CodePoint} {body : Text} {pieces : List Piece} (printable : 0x20 ≤ c) (apart : c ∉ [0x22, 0x5C])
      (others : Spelling body pieces) : Spelling (c :: body) (⟨c, false⟩ :: pieces)
  | letter {letter c : CodePoint} {body : Text} {pieces : List Piece} (listed : (letter, c) ∈ letterEscapes)
      (others : Spelling body pieces) : Spelling (0x5C :: letter :: body) (⟨c, false⟩ :: pieces)
  | number {digits body : Text} {c : CodePoint} {pieces : List Piece} (hex : Digits hexValue? 16 digits c)
      (size : digits.length = 4) (others : Spelling body pieces) :
      Spelling (0x5C :: 0x75 :: (digits ++ body)) (⟨c, true⟩ :: pieces)

/-- The halves of a surrogate pair, both written by their numbers. -/
def Halves (p q : Piece) : Prop :=
  p.byNumber = true ∧ q.byNumber = true ∧ isHighSurrogate p.c = true ∧ isLowSurrogate q.c = true

instance (p q : Piece) : Decidable (Halves p q) := inferInstanceAs (Decidable (_ ∧ _))

/-- One character for each piece. -/
def singly (pieces : List Piece) : Text := pieces.map (·.c)

/-- One character for each piece, and one for two halves after each other. -/
def joined : List Piece → Text
  | [] => []
  | [p] => [p.c]
  | p :: q :: rest => if Halves p q then joinSurrogates p.c q.c :: joined rest else p.c :: joined (q :: rest)

/-! ## Numbers -/

def minusSign (minus : Bool) : Text := if minus then [0x2D] else []

def signed (minus : Bool) (n : Nat) : Int := if minus then -(n : Int) else n

/-- Decimal digits, at least one. -/
def Run (digits : Text) : Prop := digits ≠ [] ∧ ∀ c ∈ digits, isAsciiDigit c = true

/-- A zero alone, or digits that start with another one. -/
inductive Whole : Text → Prop
  | zero : Whole [0x30]
  | run {digits : Text} (run : Run digits) (first : digits.head? ≠ some 0x30) : Whole digits

/-- What stands from a point on, if there is one, and its digits. -/
inductive Fraction : Text → Text → Prop
  | none : Fraction [] []
  | places {places : Text} (run : Run places) : Fraction (0x2E :: places) places

/-- An exponent, if there is one, and the power of ten it gives. -/
inductive Power : Text → Int → Prop
  | none : Power [] 0
  | plain {letter : CodePoint} {digits : Text} (isLetter : letter ∈ [0x65, 0x45]) (run : Run digits) :
      Power (letter :: digits) (decimalValue digits)
  | plus {letter : CodePoint} {digits : Text} (isLetter : letter ∈ [0x65, 0x45]) (run : Run digits) :
      Power (letter :: 0x2B :: digits) (decimalValue digits)
  | minus {letter : CodePoint} {digits : Text} (isLetter : letter ∈ [0x65, 0x45]) (run : Run digits) :
      Power (letter :: 0x2D :: digits) (-(decimalValue digits : Int))

/-- A number and its value: an integer, or the double closest to a number with a fraction or an exponent. -/
inductive NumberText : Text → Json → Prop
  | integer {minus : Bool} {digits : Text} (whole : Whole digits) (short : digits.length ≤ maxIntegerDigits) :
      NumberText (minusSign minus ++ digits) (.int (signed minus (decimalValue digits)))
  | decimal {minus : Bool} {digits fraction places exponent : Text} {power : Int} (whole : Whole digits)
      (part : Fraction fraction places) (scale : Power exponent power) (marked : fraction ≠ [] ∨ exponent ≠ []) :
      NumberText (minusSign minus ++ (digits ++ (fraction ++ exponent)))
        (.float (Binary64.ofDecimal minus (decimalValue (digits ++ places)) (power - places.length)))

/-! ## Values -/

/-- What a text writes. -/
inductive Tree where
  | null
  | bool (b : Bool)
  | number (value : Json)
  | text (pieces : List Piece)
  | list (items : List Tree)
  | object (fields : List (List Piece × Tree))

section Value

variable (decode : List Piece → Text)

mutual

/-- The value of a tree, with what the pieces of texts give. Of fields with one name the last counts. -/
def Tree.value : Tree → Json
  | .null => .null
  | .bool b => .bool b
  | .number value => value
  | .text pieces => .text (decode pieces)
  | .list items => .list (itemValues items)
  | .object fields => .object (ofWrites (fieldValues fields))

def itemValues : List Tree → List Json
  | [] => []
  | item :: items => item.value :: itemValues items

def fieldValues : List (List Piece × Tree) → List (Text × Json)
  | [] => []
  | (name, item) :: fields => (decode name, item.value) :: fieldValues fields

end

end Value

mutual

/-- How a tree is written. -/
inductive Writes : Tree → Text → Prop
  | null : Writes .null (Text.of "null")
  | true : Writes (.bool true) (Text.of "true")
  | false : Writes (.bool false) (Text.of "false")
  | number {token : Text} {v : Json} (number : NumberText token v) : Writes (.number v) token
  | text {body : Text} {pieces : List Piece} (spelling : Spelling body pieces) :
      Writes (.text pieces) (0x22 :: (body ++ [0x22]))
  | noItems {g : Text} (gap : Gap g) : Writes (.list []) (0x5B :: (g ++ [0x5D]))
  | list {items : List Tree} {t : Text} (inside : WritesItems items t) : Writes (.list items) (0x5B :: t)
  | noFields {g : Text} (gap : Gap g) : Writes (.object []) (0x7B :: (g ++ [0x7D]))
  | object {fields : List (List Piece × Tree)} {t : Text} (inside : WritesFields fields t) :
      Writes (.object fields) (0x7B :: t)

/-- The items of a list, with the end of the list. -/
inductive WritesItems : List Tree → Text → Prop
  | last {item : Tree} {g t g' : Text} (before : Gap g) (value : Writes item t) (after : Gap g') :
      WritesItems [item] (g ++ (t ++ (g' ++ [0x5D])))
  | more {item : Tree} {items : List Tree} {g t g' others : Text} (before : Gap g) (value : Writes item t)
      (after : Gap g') (rest : WritesItems items others) :
      WritesItems (item :: items) (g ++ (t ++ (g' ++ 0x2C :: others)))

/-- The fields of an object, with the end of the object. -/
inductive WritesFields : List (List Piece × Tree) → Text → Prop
  | last {name : List Piece} {item : Tree} {g body g₁ g₂ t g' : Text} (before : Gap g) (key : Spelling body name)
      (colon : Gap g₁) (blank : Gap g₂) (value : Writes item t) (after : Gap g') :
      WritesFields [(name, item)]
        (g ++ 0x22 :: (body ++ 0x22 :: (g₁ ++ 0x3A :: (g₂ ++ (t ++ (g' ++ [0x7D]))))))
  | more {name : List Piece} {item : Tree} {fields : List (List Piece × Tree)} {g body g₁ g₂ t g' others : Text}
      (before : Gap g) (key : Spelling body name) (colon : Gap g₁) (blank : Gap g₂) (value : Writes item t)
      (after : Gap g') (rest : WritesFields fields others) :
      WritesFields ((name, item) :: fields)
        (g ++ 0x22 :: (body ++ 0x22 :: (g₁ ++ 0x3A :: (g₂ ++ (t ++ (g' ++ 0x2C :: others))))))

end

/-- A text writes a tree, with gaps around it. -/
def Document (tree : Tree) (t : Text) : Prop :=
  ∃ g w g', Gap g ∧ Writes tree w ∧ Gap g' ∧ t = g ++ (w ++ g')

/-! ## Pairs -/

/-- No half of a surrogate pair is written by its number right before the other half. -/
def Unpaired (pieces : List Piece) : Prop := pieces.IsChain fun p q => ¬Halves p q

mutual

/-- No text in a tree is written with a pair of halves. -/
def Tree.Unpaired : Tree → Prop
  | .text pieces => Json.Unpaired pieces
  | .list items => UnpairedItems items
  | .object fields => UnpairedFields fields
  | _ => True

def UnpairedItems : List Tree → Prop
  | [] => True
  | item :: items => item.Unpaired ∧ UnpairedItems items

def UnpairedFields : List (List Piece × Tree) → Prop
  | [] => True
  | (name, item) :: fields => Json.Unpaired name ∧ item.Unpaired ∧ UnpairedFields fields

end

theorem joined_of_unpaired {pieces : List Piece} (unpaired : Unpaired pieces) : joined pieces = singly pieces := by
  induction pieces with
  | nil => rfl
  | cons p pieces ih =>
    cases pieces with
    | nil => rfl
    | cons q pieces =>
      obtain ⟨apart, others⟩ := List.isChain_cons_cons.mp unpaired
      rw [joined, if_neg apart, ih others]
      rfl

mutual

/-- Without pairs it makes no difference whether they are joined. -/
theorem value_of_unpaired : ∀ {tree : Tree}, tree.Unpaired → tree.value joined = tree.value singly
  | .null, _ => rfl
  | .bool _, _ => rfl
  | .number _, _ => rfl
  | .text _, unpaired => by rw [Tree.value, Tree.value, joined_of_unpaired unpaired]
  | .list _, unpaired => by rw [Tree.value, Tree.value, itemValues_of_unpaired unpaired]
  | .object _, unpaired => by rw [Tree.value, Tree.value, fieldValues_of_unpaired unpaired]

theorem itemValues_of_unpaired : ∀ {items : List Tree}, UnpairedItems items →
    itemValues joined items = itemValues singly items
  | [], _ => rfl
  | _ :: _, ⟨own, others⟩ => by
    rw [itemValues, itemValues, value_of_unpaired own, itemValues_of_unpaired others]

theorem fieldValues_of_unpaired : ∀ {fields : List (List Piece × Tree)}, UnpairedFields fields →
    fieldValues joined fields = fieldValues singly fields
  | [], _ => rfl
  | _ :: _, ⟨name, own, others⟩ => by
    rw [fieldValues, fieldValues, joined_of_unpaired name, value_of_unpaired own, fieldValues_of_unpaired others]

end

end UrlRules.Json
