import UrlRules.Json.Basic
import UrlRules.Script.Error
import UrlRules.Text.Blank
import UrlRules.Text.Integer

/-!
# Tokens of script literals

Blanks and comments, texts in three styles of quotes, regex literals, numbers and identifiers. Each
reader takes what is left of the text and gives what it read with what is left after it.
-/
namespace UrlRules.Script

open Text

/-! ## Blanks and comments -/

/-- The text after the first line feed; empty if there is none. -/
def afterLine : Text → Text
  | [] => []
  | c :: rest => if c = lineFeed then rest else afterLine rest

/-- The text after the first end mark of a comment. -/
def afterComment? : Text → Option Text
  | [] => none
  | [_] => none
  | c :: d :: rest => if c = 0x2A ∧ d = 0x2F then some rest else afterComment? (d :: rest)

/-- Skips blanks and comments. -/
def skipBlanks : Nat → Text → Except Failure Text
  | 0, s => .ok s
  | fuel + 1, s =>
      match s with
      | [] => .ok []
      | c :: rest =>
          if isBlank c then skipBlanks fuel rest
          else if startsWith s (Text.of "//") then skipBlanks fuel (afterLine s)
          else if startsWith s (Text.of "/*") then
            match afterComment? (s.drop 2) with
            | none => failAt .unterminatedComment s
            | some rest => skipBlanks fuel rest
          else .ok s

/-- Skips all blanks and comments at the start of a text. -/
def skip (s : Text) : Except Failure Text := skipBlanks s.length s

/-! ## Texts -/

def backtick : CodePoint := 0x60

/-- The character that a one-letter escape stands for. -/
def shortEscape? (c : CodePoint) : Option CodePoint :=
  if c = 0x6E then some 0x0A
  else if c = 0x74 then some 0x09
  else if c = 0x72 then some 0x0D
  else if c = 0x62 then some 0x08
  else if c = 0x66 then some 0x0C
  else if c = 0x76 then some 0x0B
  else if c = 0x30 then some 0x00
  else none

/-- Numbers beyond this one cannot be compared with code points. -/
def largestNumber : Int := 2147483647

/-- The character with a number in base sixteen. A fault is found `left` characters before the end
and `past` after it. -/
def characterOf (digits : Text) (left past : Nat) : Except Failure CodePoint :=
  match readInteger 16 digits with
  | .error _ => .error (.malformed (.invalidDigits digits) left past)
  | .ok n =>
      if largestNumber < n ∨ n < -largestNumber - 1 then .error .codePointTooLarge
      else if 0 ≤ n ∧ n ≤ (maxCodePoint : Int) then .ok n.toNat
      else .error (.malformed (.invalidDigits digits) left past)

/-- Reads an escape of a fixed number of digits. At the end of the text fewer are read. -/
def readFixed (count : Nat) (s : Text) : Except Failure (Text × Text) := do
  let c ← characterOf (s.take count) (s.drop count).length (count - s.length)
  return ([c], s.drop count)

/-- Reads an escape after its backslash. A line feed after it stands for nothing. -/
def readEscape (s : Text) : Except Failure (Text × Text) :=
  match s with
  | [] => failAt .unterminatedEscape []
  | c :: rest =>
      match shortEscape? c with
      | some d => .ok ([d], rest)
      | none =>
          if c = lineFeed then .ok ([], rest)
          else if c = 0x78 then readFixed 2 rest
          else if c = 0x75 then
            match rest with
            | 0x7B :: inner =>
                match cut 0x7D inner with
                | (_, none) => failAt .unterminatedCodePoint rest
                | (digits, some after) => do
                    let d ← characterOf digits after.length 0
                    return ([d], after)
            | _ => readFixed 4 rest
          else .ok ([c], rest)

/-- Reads the characters of a text up to its closing quote. `opened` is how many characters were
left at the opening one. -/
def readCharacters (quote : CodePoint) (opened : Nat) :
    Nat → Text → Text → Except Failure (Text × Text)
  | 0, _, _ => .error (.malformed .unterminatedText opened 0)
  | fuel + 1, read, s =>
      match s with
      | [] => .error (.malformed .unterminatedText opened 0)
      | c :: rest =>
          if c = quote then .ok (read.reverse, rest)
          else if c = backslash then do
            let (characters, rest) ← readEscape rest
            readCharacters quote opened fuel (characters ++ read) rest
          else if quote = backtick ∧ startsWith s [0x24, 0x7B] then
            failAt .templateSubstitution s
          else if c = lineFeed ∧ quote ≠ backtick then
            .error (.malformed .unterminatedText opened 0)
          else readCharacters quote opened fuel (c :: read) rest

/-- Reads a text after its opening quote. -/
def readText (quote : CodePoint) (rest : Text) : Except Failure (Text × Text) :=
  readCharacters quote (rest.length + 1) (rest.length + 1) [] rest

/-! ## Regex literals -/

/-- The length of the body of a regex literal after its opening slash, with the closing one. A
slash inside brackets or after a backslash does not close it. -/
def regexLength? (inClass : Bool) : Text → Option Nat
  | [] => none
  | c :: rest =>
      if c = backslash then
        match rest with
        | [] => none
        | _ :: rest => (regexLength? inClass rest).map (· + 2)
      else if c = lineFeed then none
      else if c = 0x5B then (regexLength? true rest).map (· + 1)
      else if c = 0x5D then (regexLength? false rest).map (· + 1)
      else if c = 0x2F && !inClass then some 1
      else (regexLength? inClass rest).map (· + 1)

/-- Reads a regex literal. Its value is its text, with the flags after it. -/
def readRegex (s : Text) : Except Failure (Text × Text) :=
  match regexLength? false (s.drop 1) with
  | none => failAt .unterminatedRegex s
  | some n =>
      let flags := (s.drop (n + 1)).takeWhile isAsciiLower
      let size := n + 1 + flags.length
      .ok (s.take size, s.drop size)

/-! ## Numbers and identifiers -/

def isSign (c : CodePoint) : Bool := c == 0x2B || c == 0x2D

/-- The length of a run of digits. -/
def digitRun (s : Text) : Nat := (s.takeWhile isDigit).length

/-- The length of an exponent; zero if none starts the text. -/
def exponentLength (s : Text) : Nat :=
  match s with
  | e :: rest =>
      if e = 0x65 ∨ e = 0x45 then
        let sign := (rest.take 1).countP isSign
        let digits := digitRun (rest.drop sign)
        if digits = 0 then 0 else 1 + sign + digits
      else 0
  | [] => 0

/-- The length of a number without a sign; zero if none starts the text. -/
def unsignedLength (s : Text) : Nat :=
  let hex :=
    match s with
    | 0x30 :: x :: rest => if x = 0x78 ∨ x = 0x58 then (rest.takeWhile isHexDigit).length else 0
    | _ => 0
  if hex ≠ 0 then hex + 2
  else
    let whole := digitRun s
    let mantissa :=
      match s.drop whole with
      | 0x2E :: rest =>
          let places := digitRun rest
          if whole = 0 ∧ places = 0 then 0 else whole + 1 + places
      | _ => whole
    if mantissa = 0 then 0 else mantissa + exponentLength (s.drop mantissa)

/-- The length of a number; zero if none starts the text. -/
def numberLength (s : Text) : Nat :=
  let sign := (s.take 1).countP isSign
  let n := unsignedLength (s.drop sign)
  if n = 0 then 0 else sign + n

def digitsOf (s : Text) : List Nat := s.filterMap digitValue?

/-- The value of a decimal number with a point or an exponent. -/
def floatOf (negative : Bool) (body : Text) : Binary64 :=
  let mantissa := body.takeWhile fun c => c != 0x65 && c != 0x45
  let (whole, places) := cut 0x2E mantissa
  let places := places.getD []
  let exponent := body.drop (mantissa.length + 1)
  let size : Int := digitsValue 10 (digitsOf exponent)
  let exponent := if exponent.head? = some 0x2D then -size else size
  Binary64.ofDecimal negative (digitsValue 10 (digitsOf (whole ++ places)))
    (exponent - (digitsOf places).length)

/-- The value of a number: an integer, unless it has a point or an exponent. -/
def numberOf (token : Text) : Except Failure Json :=
  let negative := token.head? = some 0x2D
  let body := token.dropWhile isSign
  let signed (n : Nat) : Json := .int (if negative then -(n : Int) else n)
  match body with
  | 0x30 :: x :: digits =>
      if x = 0x78 ∨ x = 0x58 then .ok (signed (digitsValue 16 (digits.filterMap hexValue?)))
      else decimal negative signed body
  | _ => decimal negative signed body
where
  decimal (negative : Bool) (signed : Nat → Json) (body : Text) : Except Failure Json :=
    if body.any fun c => c == 0x2E || c == 0x65 || c == 0x45 then
      .ok (.float (floatOf negative body))
    else if maxDecimalDigits < body.length then .error (.tooManyDigits body.length)
    else .ok (signed (digitsValue 10 (digitsOf body)))

def isIdentifierStart (c : CodePoint) : Bool := isAsciiLetter c || c == 0x5F || c == 0x24

def isIdentifierPart (c : CodePoint) : Bool := isIdentifierStart c || isAsciiDigit c

/-- The identifier at the start of a text; empty if there is none. -/
def identifier (s : Text) : Text :=
  match s with
  | c :: _ => if isIdentifierStart c then s.takeWhile isIdentifierPart else []
  | [] => []

end UrlRules.Script
