/-!
# Binary floating-point numbers of 64 bits

A finite number is a sign, a significand below 2^53 and an exponent of two. The significand has its
top bit set unless the exponent is the least, so each number has one form. `ofRatio` rounds a
quotient of natural numbers to the nearest number, a tie going to the even significand.
-/
namespace UrlRules

inductive Binary64 where
  | notANumber
  | infinite (negative : Bool)
  | finite (negative : Bool) (significand : Nat) (exponent : Int)
  deriving DecidableEq, Repr, Inhabited

namespace Binary64

def minExponent : Int := -1074
def maxExponent : Int := 971

def zero : Binary64 := .finite false 0 minExponent

/-- A quotient rounded to a natural number, a half going to the even neighbour. -/
def roundedDiv (num den : Nat) : Nat :=
  let q := num / den
  let r := num % den
  if 2 * r < den then q else if den < 2 * r then q + 1 else if q % 2 = 0 then q else q + 1

/-- `num / den` divided by `2 ^ e` as a quotient of natural numbers. -/
def scaled (num den : Nat) (e : Int) : Nat × Nat :=
  if 0 ≤ e then (num, den * Nat.pow 2 e.toNat) else (num * Nat.pow 2 (-e).toNat, den)

/-- The exponent at which the significand of `num / den` has 53 bits, or the least exponent. -/
def exponentOf (num den : Nat) : Int :=
  let guess : Int := (num.log2 : Int) - den.log2 - 52
  let (n, d) := scaled num den guess
  let e := if n / d < Nat.pow 2 52 then guess - 1 else guess
  max e minExponent

/-- The number nearest to `num / den`. -/
def ofRatio (negative : Bool) (num den : Nat) : Binary64 :=
  if num = 0 then .finite negative 0 minExponent
  else
    let e := exponentOf num den
    let (n, d) := scaled num den e
    let m := roundedDiv n d
    let (m, e) := if m = Nat.pow 2 53 then (Nat.pow 2 52, e + 1) else (m, e)
    if maxExponent < e then .infinite negative else .finite negative m e

/-- The number nearest to `digits * 10 ^ exponent`. Far outside the range of the format the value
is not computed: it is an infinity or a zero. -/
def ofDecimal (negative : Bool) (digits : Nat) (exponent : Int) : Binary64 :=
  if digits = 0 then .finite negative 0 minExponent
  else if 310 < exponent then .infinite negative
  else if (digits.log2 : Int) + 1 + 3 * exponent < -1100 then .finite negative 0 minExponent
  else if 0 ≤ exponent then ofRatio negative (digits * Nat.pow 10 exponent.toNat) 1
  else ofRatio negative digits (Nat.pow 10 (-exponent).toNat)

/-- The number nearest to an integer; infinite if it is too large. -/
def ofInt (n : Int) : Binary64 := ofRatio (decide (n < 0)) n.natAbs 1

/-- The magnitude of a finite number as a quotient. -/
def ratio (significand : Nat) (exponent : Int) : Nat × Nat :=
  if 0 ≤ exponent then (significand * Nat.pow 2 exponent.toNat, 1)
  else (significand, Nat.pow 2 (-exponent).toNat)

def isFinite : Binary64 → Bool
  | .finite .. => true
  | _ => false

def isZero : Binary64 → Bool
  | .finite _ 0 _ => true
  | _ => false

/-- Strictly greater than zero. -/
def isPositive : Binary64 → Bool
  | .notANumber => false
  | .infinite negative => !negative
  | .finite negative m _ => !negative && m != 0

/-- The integer that a number equals, if it equals one. -/
def toInt? : Binary64 → Option Int
  | .finite negative m e =>
      let (n, d) := ratio m e
      if n % d = 0 then some (if negative then -(n / d : Int) else (n / d : Int)) else none
  | _ => none

/-- Numerical equality: zeros are equal, and not-a-number equals nothing. -/
def same : Binary64 → Binary64 → Bool
  | .notANumber, _ => false
  | _, .notANumber => false
  | a, b => a == b || (a.isZero && b.isZero)

def negate : Binary64 → Binary64
  | .notANumber => .notANumber
  | .infinite negative => .infinite !negative
  | .finite negative m e => .finite (!negative) m e

/-- The product, rounded. -/
def mul : Binary64 → Binary64 → Binary64
  | .finite n m e, .finite n' m' e' =>
      let (a, b) := ratio m e
      let (c, d) := ratio m' e'
      ofRatio (n != n') (a * c) (b * d)
  | .infinite n, .infinite n' => .infinite (n != n')
  | .infinite n, .finite n' m _ => if m = 0 then .notANumber else .infinite (n != n')
  | .finite n m _, .infinite n' => if m = 0 then .notANumber else .infinite (n != n')
  | _, _ => .notANumber

/-- The sum, rounded. A sum of zero is positive unless both terms are negative. -/
def add : Binary64 → Binary64 → Binary64
  | .finite n m e, .finite n' m' e' =>
      let (a, b) := ratio m e
      let (c, d) := ratio m' e'
      let left : Int := if n then -(a * d : Int) else (a * d : Int)
      let right : Int := if n' then -(c * b : Int) else (c * b : Int)
      let sum := left + right
      ofRatio (if sum = 0 then n && n' else decide (sum < 0)) sum.natAbs (b * d)
  | .infinite n, .infinite n' => if n = n' then .infinite n else .notANumber
  | .infinite n, .finite .. => .infinite n
  | .finite .., .infinite n => .infinite n
  | _, _ => .notANumber

end Binary64
end UrlRules
