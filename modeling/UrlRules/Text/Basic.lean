/-!
# Text

A text is a list of code points. Lone surrogates are code points like any other: a script can
write one, so characters of the host language would lose it.
-/
namespace UrlRules

abbrev CodePoint := Nat

abbrev Text := List CodePoint

namespace Text

def of (s : String) : Text := s.toList.map Char.toNat

instance : Coe String Text := ⟨of⟩

instance : LawfulBEq Text := inferInstanceAs (LawfulBEq (List Nat))

def isSurrogate (c : CodePoint) : Bool := 0xD800 ≤ c && c ≤ 0xDFFF

def maxCodePoint : CodePoint := 0x10FFFF

def lineFeed : CodePoint := 0x0A
def carriageReturn : CodePoint := 0x0D
def space : CodePoint := 0x20

/-- Whether every code point is a Unicode scalar value. -/
def isScalar (s : Text) : Bool := s.all fun c => !isSurrogate c

def isAsciiLower (c : CodePoint) : Bool := 0x61 ≤ c && c ≤ 0x7A
def isAsciiUpper (c : CodePoint) : Bool := 0x41 ≤ c && c ≤ 0x5A
def isAsciiLetter (c : CodePoint) : Bool := isAsciiLower c || isAsciiUpper c
def isAsciiDigit (c : CodePoint) : Bool := 0x30 ≤ c && c ≤ 0x39
def isOctalDigit (c : CodePoint) : Bool := 0x30 ≤ c && c ≤ 0x37

/-- The value of a hexadecimal digit in either case. -/
def hexValue? (c : CodePoint) : Option Nat :=
  if isAsciiDigit c then some (c - 0x30)
  else if 0x61 ≤ c ∧ c ≤ 0x66 then some (c - 0x57)
  else if 0x41 ≤ c ∧ c ≤ 0x46 then some (c - 0x37)
  else none

def isHexDigit (c : CodePoint) : Bool := (hexValue? c).isSome

/-- The digit that stands for a value below sixteen, in lower case. -/
def hexDigit (n : Nat) : CodePoint := if n < 10 then 0x30 + n else 0x57 + n

/-- The value of digits in a base, most significant first. -/
def digitsValue (base : Nat) (digits : List Nat) : Nat :=
  digits.foldl (fun acc d => acc * base + d) 0

/-- At least `width` digits of `n`, padded with zeros. -/
def hexPadded : Nat → Nat → Text
  | 0, _ => []
  | width + 1, n => hexPadded width (n / 16) ++ [hexDigit (n % 16)]

def ofNat (n : Nat) : Text := (Nat.toDigits 10 n).map Char.toNat

def ofInt (n : Int) : Text :=
  if n < 0 then 0x2D :: ofNat n.natAbs else ofNat n.natAbs

/-- The rest of `s` after `lead`, if `s` starts with it. -/
def dropLead? : (lead s : Text) → Option Text
  | [], s => some s
  | _ :: _, [] => none
  | a :: lead, c :: s => if a = c then dropLead? lead s else none

def startsWith (s lead : Text) : Bool := (dropLead? lead s).isSome

def endsWith (s tail : Text) : Bool := startsWith s.reverse tail.reverse

/-- The text before the first `sep`, and the text after it if there is one. -/
def cut (sep : CodePoint) : Text → Text × Option Text
  | [] => ([], none)
  | c :: rest =>
      if c = sep then ([], some rest)
      else
        let (head, tail) := cut sep rest
        (c :: head, tail)

/-- The pieces between the occurrences of `sep`; never empty. -/
def splitOn (sep : CodePoint) : Text → List Text
  | [] => [[]]
  | c :: rest =>
      if c = sep then [] :: splitOn sep rest
      else
        match splitOn sep rest with
        | [] => [[c]]
        | piece :: pieces => (c :: piece) :: pieces

/-- The pieces with `sep` between neighbours. -/
def joinWith (sep : Text) : List Text → Text
  | [] => []
  | [piece] => piece
  | piece :: next :: pieces => piece ++ sep ++ joinWith sep (next :: pieces)

/-- The text without the characters of a class at its start. -/
def trimLeft (skip : CodePoint → Bool) (s : Text) : Text := s.dropWhile skip

def trimRight (skip : CodePoint → Bool) (s : Text) : Text := (s.reverse.dropWhile skip).reverse

def trim (skip : CodePoint → Bool) (s : Text) : Text := trimRight skip (trimLeft skip s)

/-- Whether `piece` occurs in `s`. -/
def hasInfix (piece : Text) : Text → Bool
  | [] => piece.isEmpty
  | c :: rest => startsWith (c :: rest) piece || hasInfix piece rest

/-- Order of texts by their code points, which is also the order of their UTF-8 octets. -/
def before : Text → Text → Bool
  | _, [] => false
  | [], _ :: _ => true
  | a :: s, b :: t => if a < b then true else if b < a then false else before s t

end Text
end UrlRules
