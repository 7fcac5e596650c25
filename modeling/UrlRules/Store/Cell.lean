import UrlRules.Json.Basic
import UrlRules.Number.Binary64
import UrlRules.Text.Blank
import UrlRules.Text.Utf8

/-!
# Cells of a table

A cell is empty, a number or a text. Empty cells come before numbers, and numbers before texts. A
column of texts keeps a number as its text, and a column of integers keeps what is written like a
number as that number.
-/
namespace UrlRules

open Text

inductive Cell where
  | empty
  | integer (n : Int)
  | real (x : Binary64)
  | text (s : Text)
  deriving DecidableEq, Repr, Inhabited

namespace Cell

/-- Integers outside these bounds do not fit a cell. -/
def minInteger : Int := -9223372036854775808
def maxInteger : Int := 9223372036854775807

def fits (n : Int) : Bool := minInteger ≤ n && n ≤ maxInteger

/-- The value of a cell. -/
def toJson : Cell → Json
  | .empty => .null
  | .integer n => .int n
  | .real x => .float x
  | .text s => .text s

/-- Whether a cell holds something other than zero or an empty text. -/
def isTruthy (c : Cell) : Bool := c.toJson.isTruthy

/-! ## Order -/

/-- A finite number as a quotient with a positive denominator. -/
def quotient? : Cell → Option (Int × Nat)
  | .integer n => some (n, 1)
  | .real (.finite negative m e) =>
      let (num, den) := Binary64.ratio m e
      some (if negative then -(num : Int) else num, den)
  | _ => none

/-- Whether a cell holds an infinity of a sign. -/
def isInfinite (negative : Bool) : Cell → Bool
  | .real (.infinite n) => n == negative
  | _ => false

/-- The order of numbers. -/
def numberBefore (a b : Cell) : Bool :=
  match quotient? a, quotient? b with
  | some (n, d), some (m, e) => n * e < m * d
  | some _, none => isInfinite false b
  | none, some _ => isInfinite true a
  | none, none => isInfinite true a && isInfinite false b

/-- The place of the kind of a cell in the order. -/
def rank : Cell → Nat
  | .empty => 0
  | .integer _ | .real _ => 1
  | .text _ => 2

def before (a b : Cell) : Bool :=
  match a, b with
  | .text s, .text t => Text.before s t
  | a, b => if a.rank = b.rank then numberBefore a b else a.rank < b.rank

/-! ## Numbers written as text -/

/-- A sign, digits with or without a point among them, and an exponent. -/
structure Written where
  negative : Bool
  digits : List Nat
  places : Nat
  scale : Int
  whole : Bool

def asciiDigits (s : Text) : Option (List Nat) :=
  if s.all isAsciiDigit then some (s.map (· - 0x30)) else none

def splitSign (s : Text) : Bool × Text :=
  match s with
  | 0x2D :: rest => (true, rest)
  | 0x2B :: rest => (false, rest)
  | s => (false, s)

def scale? (s : Text) : Option Int := do
  let (negative, body) := splitSign s
  let digits ← asciiDigits body
  if digits.isEmpty then none
  let n : Int := digitsValue 10 digits
  return if negative then -n else n

/-- The number that a text writes, blanks in ASCII around it. -/
def written? (s : Text) : Option Written := do
  let (negative, body) := splitSign (trim isAsciiBlank s)
  let mantissa := body.takeWhile fun c => c != 0x65 && c != 0x45
  let exponent := body.drop mantissa.length
  let (whole, places) := cut 0x2E mantissa
  let digits ← asciiDigits whole
  let after ← asciiDigits (places.getD [])
  if digits.isEmpty && after.isEmpty then none
  let scale ← if exponent.isEmpty then some 0 else scale? exponent.tail
  return ⟨negative, digits ++ after, after.length, scale, places.isNone && exponent.isEmpty⟩

/-- A number as a cell: an integer if it is one well inside the bounds. -/
def ofNumber (x : Binary64) : Cell :=
  match x.toInt? with
  | some n => if minInteger < n ∧ n < maxInteger then .integer n else .real x
  | none => .real x

/-- What a column of integers keeps. -/
def inIntegers (c : Cell) : Cell :=
  match c with
  | .real x => ofNumber x
  | .text s =>
      match written? s with
      | none => c
      | some w =>
          let value : Int := digitsValue 10 w.digits
          let n := if w.negative then -value else value
          if w.whole ∧ fits n then .integer n
          else ofNumber (Binary64.ofDecimal w.negative value.toNat (w.scale - w.places))
  | c => c

/-! ## Numbers as text -/

/-- How many significant digits a number has in a column of texts. -/
def significantDigits : Nat := 15

/-- The decimal exponent of the first digit of `num / den`, which is not zero. -/
def leadingExponent (num den : Nat) : Int :=
  if den ≤ num then ((Nat.toDigits 10 (num / den)).length : Int) - 1
  else
    let n := (Nat.toDigits 10 (den / num)).length
    if den ≤ num * Nat.pow 10 (n - 1) then -((n : Int) - 1) else -(n : Int)

/-- `num / den` times a power of ten, rounded. -/
def scaledRound (num den : Nat) (power : Int) : Nat :=
  if 0 ≤ power then Binary64.roundedDiv (num * Nat.pow 10 power.toNat) den
  else Binary64.roundedDiv num (den * Nat.pow 10 (-power).toNat)

/-- The significant digits of `num / den`, and the decimal exponent of the first. -/
def decimalDigits (num den : Nat) : Text × Int :=
  let e := leadingExponent num den
  let digits := Text.ofNat (scaledRound num den ((significantDigits : Int) - 1 - e))
  if digits.length > significantDigits then (digits.take significantDigits, e + 1) else (digits, e)

/-- Digits without zeros at the end, but with at least one digit. -/
def significant (digits : Text) : Text :=
  match trimRight (· == 0x30) digits with
  | [] => [0x30]
  | s => s

/-- Digits with a point after the first `whole` ones, and at least one digit after it. -/
def withPoint (digits : Text) (whole : Nat) : Text :=
  let padded := digits ++ List.replicate (whole - digits.length) 0x30
  let places := trimRight (· == 0x30) (padded.drop whole)
  padded.take whole ++ 0x2E :: (if places.isEmpty then [0x30] else places)

def exponentText (e : Int) : Text :=
  let digits := Text.ofNat e.natAbs
  0x65 :: (if e < 0 then 0x2D else 0x2B) :: (if digits.length < 2 then 0x30 :: digits else digits)

/-- The text of a real number: with fifteen digits, and an exponent where it is large or small. -/
def realText : Binary64 → Text
  | .notANumber => []
  | .infinite negative => if negative then "-Inf" else "Inf"
  | .finite negative m e =>
      if m = 0 then "0.0"
      else
        let (num, den) := Binary64.ratio m e
        let (digits, exponent) := decimalDigits num den
        let body :=
          if exponent < -4 ∨ (significantDigits : Int) ≤ exponent then
            withPoint (significant digits) 1 ++ exponentText exponent
          else if exponent < 0 then
            withPoint (0x30 :: (List.replicate (-exponent - 1).toNat 0x30 ++ digits)) 1
          else withPoint digits (exponent.toNat + 1)
        if negative then 0x2D :: body else body

/-- What a column of texts keeps. -/
def inTexts (c : Cell) : Cell :=
  match c with
  | .integer n => .text (Text.ofInt n)
  | .real x => .text (realText x)
  | c => c

/-! ## Positions -/

/-- The number `n` after the one in a cell; a text is no number. -/
def shifted? (c : Cell) (n : Int) : Option Cell :=
  match c with
  | .integer m => some (.integer (m + n))
  | .real x => some (.real (x.add (Binary64.ofInt n)))
  | _ => none

end Cell
end UrlRules
