import UrlRules.Number.Binary64
import UrlRules.Text.Basic

/-!
# The shortest decimal form of a binary number

`shortest` gives the fewest decimal digits that read back as the number, and of those the ones
nearest to it. `Binary64.text` writes them positionally from 0.0001 up to below 10^16 and with an
exponent outside.
-/
namespace UrlRules.Binary64

/-- The largest `k` with `10 ^ k ≤ n / d`, for a positive quotient. -/
def decimalExponent (n d : Nat) : Int :=
  let guess : Int := ((n.log2 : Int) - d.log2) * 30103 / 100000 - 1
  let reaches (k : Int) : Bool :=
    if 0 ≤ k then d * Nat.pow 10 k.toNat ≤ n else d ≤ n * Nat.pow 10 (-k).toNat
  if reaches (guess + 2) then guess + 2 else if reaches (guess + 1) then guess + 1 else guess

/-- The two neighbours of `n / d` among the multiples of `10 ^ k`, nearest first. -/
def decimalNeighbours (n d : Nat) (k : Int) : List Nat :=
  let (n, d) := if 0 ≤ k then (n, d * Nat.pow 10 k.toNat) else (n * Nat.pow 10 (-k).toNat, d)
  let below := n / d
  let r := n % d
  if r = 0 then [below]
  else if 2 * r < d ∨ (2 * r = d ∧ below % 2 = 0) then [below, below + 1]
  else [below + 1, below]

/-- Tries forms with one digit more at a time. -/
def shortestFrom (m : Nat) (e : Int) (n d : Nat) (top : Int) : Nat → Nat → Nat × Int
  | 0, count => (n * Nat.pow 10 count / d, top - count)
  | left + 1, count =>
      let k := top - count
      match (decimalNeighbours n d k).find? fun digits => ofDecimal false digits k == .finite false m e with
      | some digits => (digits, k)
      | none => shortestFrom m e n d top left (count + 1)

/-- Digits `s` and exponent `k` with `s * 10 ^ k` reading back as the positive number `m * 2 ^ e`. -/
def shortest (m : Nat) (e : Int) : Nat × Int :=
  let (n, d) := ratio m e
  shortestFrom m e n d (decimalExponent n d) 17 0

/-- The digits of a number without zeros at the end. -/
def significantDigits (n : Nat) : Text :=
  Text.trimRight (· == 0x30) (Text.ofNat n)

/-- Writes the digits of a number whose first digit has the weight `10 ^ weight`. -/
def positional (digits : Text) (weight : Int) : Text :=
  if weight < 0 then
    Text.of "0." ++ List.replicate (-weight - 1).toNat 0x30 ++ digits
  else
    let whole := weight.toNat + 1
    let head := digits.take whole ++ List.replicate (whole - digits.length) 0x30
    let tail := digits.drop whole
    head ++ 0x2E :: (if tail.isEmpty then [0x30] else tail)

/-- An exponent with a sign and at least two digits. -/
def exponentText (weight : Int) : Text :=
  let size := Text.ofNat weight.natAbs
  0x65 :: (if weight < 0 then 0x2D else 0x2B) :: (if size.length < 2 then 0x30 :: size else size)

def scientific (digits : Text) (weight : Int) : Text :=
  match digits with
  | [] => 0x30 :: exponentText weight
  | [one] => one :: exponentText weight
  | one :: more => one :: 0x2E :: more ++ exponentText weight

/-- The magnitude of a finite number. -/
def magnitudeText (m : Nat) (e : Int) : Text :=
  if m = 0 then "0.0"
  else
    let (s, k) := shortest m e
    let weight := k + ((Text.ofNat s).length : Int) - 1
    let digits := significantDigits s
    if -4 ≤ weight ∧ weight < 16 then positional digits weight else scientific digits weight

/-- The text of a number: the shortest that reads back. -/
def text : Binary64 → Text
  | .notANumber => "nan"
  | .infinite negative => if negative then "-inf" else "inf"
  | .finite negative m e => (if negative then [0x2D] else []) ++ magnitudeText m e

end UrlRules.Binary64
