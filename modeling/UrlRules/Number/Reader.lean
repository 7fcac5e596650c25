import UrlRules.Number.Binary64
import UrlRules.Text.Blank
import UrlRules.Text.Integer

/-!
# Numbers as text

A number is written with decimal digits of any script, a point, and an exponent of ten; or as a word
for an infinity or for not-a-number, in any case. Blanks may stand around it, and single low lines
between its digits.
-/
namespace UrlRules.Binary64

open Text

/-- A text in ASCII letters of lower case. -/
def lowerAscii (s : Text) : Text := s.map fun c => if isAsciiUpper c then c + 0x20 else c

def word? (s : Text) : Option (Bool → Binary64) :=
  let s := lowerAscii s
  if s = Text.of "inf" ∨ s = Text.of "infinity" then some .infinite
  else if s = Text.of "nan" then some fun _ => .notANumber
  else none

/-- Digits with single low lines between them; there may be none. -/
def digits? (s : Text) : Option (List Nat) := if s.isEmpty then some [] else separatedDigits? 10 s

/-- Digits around a point, and how many stand after it. At least one digit is there. -/
def mantissa? (s : Text) : Option (List Nat × Nat) := do
  let (whole, places) := cut 0x2E s
  let whole ← digits? whole
  let places ← digits? (places.getD [])
  if whole.isEmpty && places.isEmpty then none else some (whole ++ places, places.length)

/-- An exponent: digits with or without a sign. -/
def exponent? (s : Text) : Option Int :=
  let (negative, digits) :=
    match s with
    | 0x2D :: rest => (true, rest)
    | 0x2B :: rest => (false, rest)
    | s => (false, s)
  (separatedDigits? 10 digits).map fun ds =>
    let n : Int := digitsValue 10 ds
    if negative then -n else n

def unsigned? (negative : Bool) (s : Text) : Option Binary64 :=
  match word? s with
  | some number => some (number negative)
  | none => do
      let (mantissa, exponent) := cut 0x65 (lowerAscii s)
      let (digits, places) ← mantissa? mantissa
      let scale ←
        match exponent with
        | none => some 0
        | some e => exponent? e
      return ofDecimal negative (digitsValue 10 digits) (scale - places)

/-- The number that a text writes. -/
def ofText? (s : Text) : Option Binary64 :=
  match strip s with
  | 0x2D :: rest => unsigned? true rest
  | 0x2B :: rest => unsigned? false rest
  | rest => unsigned? false rest

end UrlRules.Binary64
