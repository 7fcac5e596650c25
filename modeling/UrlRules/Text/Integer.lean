import UrlRules.Text.Blank
import UrlRules.Text.Digit

/-!
# Integers as text

An integer is written with digits of any script, in a base up to sixteen. Blanks may stand around
it, a sign and the mark of a base (`0x`, `0o`, `0b`) before it, and single low lines between its
digits.
-/
namespace UrlRules.Text

def lowLine : CodePoint := 0x5F

inductive IntegerFault where
  | malformed
  | tooManyDigits (count : Nat)
  deriving DecidableEq, Repr

/-- Decimal integers with more digits than this are refused. -/
def maxDecimalDigits : Nat := 4300

/-- The value of a digit in a base. -/
def digitIn? (base : Nat) (c : CodePoint) : Option Nat :=
  match digitValue? c with
  | some d => if d < base then some d else none
  | none => (hexValue? c).bind fun d => if d < base then some d else none

/-- Digits with single low lines between them. -/
def separatedDigits? (base : Nat) (s : Text) : Option (List Nat) :=
  match (splitOn lowLine s).mapM fun piece =>
      if piece.isEmpty then none else piece.mapM (digitIn? base) with
  | some pieces => some pieces.flatten
  | none => none

/-- Blanks around an integer may be those of any script, but not the information separators. -/
def isIntegerBlank (c : CodePoint) : Bool := isAsciiBlank c || (0x80 ≤ c && isBlank c)

/-- The letter of the mark of a base, in lower case. -/
def baseLetter? (base : Nat) : Option CodePoint :=
  if base = 16 then some 0x78 else if base = 8 then some 0x6F else if base = 2 then some 0x62 else none

/-- The digits after the mark of the base, which one low line may follow. -/
def dropBaseMark (base : Nat) (s : Text) : Text :=
  match s, baseLetter? base with
  | 0x30 :: x :: rest, some letter =>
      if x = letter ∨ x + 0x20 = letter then
        match rest with
        | 0x5F :: rest => rest
        | rest => rest
      else s
  | _, _ => s

def readInteger (base : Nat) (s : Text) : Except IntegerFault Int :=
  let body := trim isIntegerBlank s
  let (negative, body) :=
    match body with
    | 0x2D :: rest => (true, rest)
    | 0x2B :: rest => (false, rest)
    | body => (false, body)
  match separatedDigits? base (dropBaseMark base body) with
  | none => .error .malformed
  | some digits =>
      if base = 10 ∧ maxDecimalDigits < digits.length then .error (.tooManyDigits digits.length)
      else
        let n := digitsValue base digits
        .ok (if negative then -(n : Int) else n)

end UrlRules.Text
