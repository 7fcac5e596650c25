import UrlRules.Json.Basic

/-!
# Reading JSON

The reader works on what is left of a text. A failure names its cause and how many characters were
left where it was found, from which `Json.read` computes the place. Numbers without fraction and
exponent are integers of any size; `NaN`, `Infinity` and `-Infinity` are read as numbers. Two
escapes that form a surrogate pair are one character, and a lone surrogate stays.

Values may be nested to any depth. Where recursion has a limit, about a thousand arrays in each other
are too many; this limit is left out.
-/
namespace UrlRules.Json

open Text

inductive ReadFault where
  | byteOrderMark
  | expectedValue
  | expectedName
  | expectedColon
  | expectedComma
  | extraData
  | controlCharacter
  | unterminatedText
  | badEscape
  | badUnicodeEscape
  /-- An integer with more digits than are converted. -/
  | tooManyDigits (count : Nat)
  deriving DecidableEq, Repr

/-- A fault found where `left` characters of the text were left. -/
structure ReadFailure where
  fault : ReadFault
  left : Nat
  deriving DecidableEq, Repr

def failAt {α : Type} (fault : ReadFault) (rest : Text) : Except ReadFailure (α × Text) := .error ⟨fault, rest.length⟩

def isGap (c : CodePoint) : Bool := c == 0x20 || c == 0x09 || c == 0x0A || c == 0x0D

def skipGaps (s : Text) : Text := s.dropWhile isGap

/-- Integers with more digits than this are refused. -/
def maxIntegerDigits : Nat := 4300

/-- The character that a one-letter escape stands for. -/
def shortEscape? (c : CodePoint) : Option CodePoint :=
  if c = 0x22 ∨ c = 0x5C ∨ c = 0x2F then some c
  else if c = 0x62 then some 0x08
  else if c = 0x66 then some 0x0C
  else if c = 0x6E then some 0x0A
  else if c = 0x72 then some 0x0D
  else if c = 0x74 then some 0x09
  else none

/-- The value of exactly four hexadecimal digits. -/
def fourHex? (digits : Text) : Option Nat :=
  if digits.length = 4 then (digits.mapM hexValue?).map (digitsValue 16) else none

def isHighSurrogate (c : CodePoint) : Bool := 0xD800 ≤ c && c ≤ 0xDBFF
def isLowSurrogate (c : CodePoint) : Bool := 0xDC00 ≤ c && c ≤ 0xDFFF

def joinSurrogates (high low : CodePoint) : CodePoint :=
  0x10000 + (high - 0xD800) * 0x400 + (low - 0xDC00)

/-- The second half of a surrogate pair, written as an escape that is not the end of the text.
A malformed escape in that place is a fault. -/
def secondHalf? (s : Text) : Except ReadFailure (Option CodePoint) :=
  if s.length ≤ 6 ∨ s.take 2 ≠ [0x5C, 0x75] then .ok none
  else
    match fourHex? ((s.drop 2).take 4) with
    | some low => .ok (if isLowSurrogate low then some low else none)
    | none => .error ⟨.badUnicodeEscape, s.length - 1⟩

/-- Reads `XXXX` of an escape `\uXXXX`, with the second half of a pair if one follows. At least one
character has to follow the digits. -/
def readUnicodeEscape (s : Text) : Except ReadFailure (CodePoint × Text) :=
  if s.length ≤ 4 then .error ⟨.badUnicodeEscape, s.length + 1⟩
  else
    match fourHex? (s.take 4) with
    | none => .error ⟨.badUnicodeEscape, s.length + 1⟩
    | some high =>
        let rest := s.drop 4
        if isHighSurrogate high then do
          match ← secondHalf? rest with
          | some low => .ok (joinSurrogates high low, rest.drop 6)
          | none => .ok (high, rest)
        else .ok (high, rest)

/-- Reads the characters of a text up to its closing quotation mark. `opened` is how many
characters were left at the opening mark. -/
def readCharacters (opened : Nat) : Nat → Text → Text → Except ReadFailure (Text × Text)
  | 0, _, _ => .error ⟨.unterminatedText, opened⟩
  | fuel + 1, read, s =>
      match s with
      | [] => .error ⟨.unterminatedText, opened⟩
      | c :: rest =>
          if c = 0x22 then .ok (read.reverse, rest)
          else if c ≤ 0x1F then failAt .controlCharacter s
          else if c = 0x5C then
            match rest with
            | [] => .error ⟨.unterminatedText, opened⟩
            | e :: rest' =>
                if e = 0x75 then do
                  let (c, rest) ← readUnicodeEscape rest'
                  readCharacters opened fuel (c :: read) rest
                else
                  match shortEscape? e with
                  | some c => readCharacters opened fuel (c :: read) rest'
                  | none => failAt .badEscape s
          else readCharacters opened fuel (c :: read) rest

/-- Reads a text after its opening quotation mark. -/
def readText (s : Text) : Except ReadFailure (Text × Text) := readCharacters (s.length + 1) (s.length + 1) [] s

/-- The digits of a fraction, if a point and a digit start the text. -/
def fraction? (s : Text) : Option (Text × Text) :=
  match s with
  | 0x2E :: rest =>
      let digits := rest.takeWhile isAsciiDigit
      if digits.isEmpty then none else some (digits, rest.drop digits.length)
  | _ => none

/-- The sign and the digits of an exponent, if the text starts with one that is complete. -/
def exponent? (s : Text) : Option ((Bool × Text) × Text) :=
  match s with
  | e :: rest =>
      if e = 0x65 ∨ e = 0x45 then
        let (negative, rest) :=
          match rest with
          | 0x2D :: rest => (true, rest)
          | 0x2B :: rest => (false, rest)
          | rest => (false, rest)
        let digits := rest.takeWhile isAsciiDigit
        if digits.isEmpty then none else some ((negative, digits), rest.drop digits.length)
      else none
  | [] => none

def decimalValue (digits : Text) : Nat := digitsValue 10 (digits.map (· - 0x30))

/-- The integer or floating-point number with the given parts. -/
def numberOf (negative : Bool) (whole : Text) (fraction : Option Text)
    (exponent : Option (Bool × Text)) : Except ReadFault Json :=
  match fraction, exponent with
  | none, none =>
      if maxIntegerDigits < whole.length then .error (.tooManyDigits whole.length)
      else
        let n := decimalValue whole
        .ok (.int (if negative then -(n : Int) else n))
  | _, _ =>
      let places := fraction.getD []
      let scale : Int :=
        match exponent with
        | some (true, digits) => -(decimalValue digits : Int)
        | some (false, digits) => decimalValue digits
        | none => 0
      .ok (.float (Binary64.ofDecimal negative (decimalValue (whole ++ places))
        (scale - places.length)))

/-- The digits before the point: a zero alone, or digits that start with another one. -/
def wholeDigits (s : Text) : Text :=
  match s with
  | 0x30 :: _ => [0x30]
  | s => s.takeWhile isAsciiDigit

/-- Reads a number. Where none starts, a value was expected at its sign. -/
def readNumber (s : Text) : Except ReadFailure (Json × Text) :=
  let (negative, body) :=
    match s with
    | 0x2D :: rest => (true, rest)
    | s => (false, s)
  let whole := wholeDigits body
  if whole.isEmpty then failAt .expectedValue s
  else
    let rest := body.drop whole.length
    let (fraction, rest) :=
      match fraction? rest with
      | some (digits, rest) => (some digits, rest)
      | none => (none, rest)
    let (exponent, rest) :=
      match exponent? rest with
      | some (parts, rest) => (some parts, rest)
      | none => (none, rest)
    match numberOf negative whole fraction exponent with
    | .ok n => .ok (n, rest)
    | .error fault => failAt fault s

/-- The values written as words. -/
def words : List (Text × Json) := [
  (Text.of "null", .null),
  (Text.of "true", .bool true),
  (Text.of "false", .bool false),
  (Text.of "NaN", .float .notANumber),
  (Text.of "Infinity", .float (.infinite false)),
  (Text.of "-Infinity", .float (.infinite true))]

def word? (s : Text) : Option (Json × Text) :=
  words.findSome? fun (word, value) => (dropLead? word s).map fun rest => (value, rest)

mutual

/-- Reads a value. -/
def readValue : Nat → Text → Except ReadFailure (Json × Text)
  | 0, s => failAt .expectedValue s
  | fuel + 1, s =>
      match s with
      | [] => failAt .expectedValue s
      | c :: rest =>
          if c = 0x22 then do
            let (t, rest) ← readText rest
            .ok (.text t, rest)
          else if c = 0x7B then
            match skipGaps rest with
            | 0x7D :: rest => .ok (.object [], rest)
            | rest => readFields fuel [] rest
          else if c = 0x5B then
            match skipGaps rest with
            | 0x5D :: rest => .ok (.list [], rest)
            | rest => readItems fuel [] rest
          else
            match word? s with
            | some found => .ok found
            | none => readNumber s

/-- Reads the items of a list from the next item on. -/
def readItems : Nat → List Json → Text → Except ReadFailure (Json × Text)
  | 0, _, s => failAt .expectedValue s
  | fuel + 1, read, s => do
      let (item, rest) ← readValue fuel s
      match skipGaps rest with
      | 0x5D :: rest => .ok (.list (item :: read).reverse, rest)
      | 0x2C :: rest => readItems fuel (item :: read) (skipGaps rest)
      | rest => failAt .expectedComma rest

/-- Reads the fields of an object from the next name on. -/
def readFields : Nat → List (Text × Json) → Text → Except ReadFailure (Json × Text)
  | 0, _, s => failAt .expectedName s
  | fuel + 1, read, s =>
      match s with
      | 0x22 :: rest => do
          let (name, rest) ← readText rest
          match skipGaps rest with
          | 0x3A :: rest =>
              let (value, rest) ← readValue fuel (skipGaps rest)
              match skipGaps rest with
              | 0x7D :: rest => .ok (.object (ofWrites ((name, value) :: read).reverse), rest)
              | 0x2C :: rest => readFields fuel ((name, value) :: read) (skipGaps rest)
              | rest => failAt .expectedComma rest
          | rest => failAt .expectedColon rest
      | s => failAt .expectedName s

end

/-- Reads a text that holds one value and blanks around it. -/
def readDocument (s : Text) : Except ReadFailure Json :=
  if s.head? = some 0xFEFF then .error ⟨.byteOrderMark, s.length⟩
  else do
    let (value, rest) ← readValue (2 * s.length + 1) (skipGaps s)
    match skipGaps rest with
    | [] => .ok value
    | rest => .error ⟨.extraData, rest.length⟩

/-- A place in a text: the number of characters before it. -/
structure Place where
  line : Nat
  column : Nat
  offset : Nat
  deriving DecidableEq, Repr

/-- Lines and columns are counted from one, lines end at line feeds. -/
def placeAt (s : Text) (offset : Nat) : Place :=
  let read := s.take offset
  { line := read.count lineFeed + 1
    column := (read.reverse.takeWhile (· != lineFeed)).length + 1
    offset := offset }

/-- Why a text is not JSON. -/
inductive ReadError where
  | malformed (fault : ReadFault) (place : Place)
  | tooManyDigits (count : Nat)
  deriving DecidableEq, Repr

def read (s : Text) : Except ReadError Json :=
  match readDocument s with
  | .ok value => .ok value
  | .error ⟨.tooManyDigits count, _⟩ => .error (.tooManyDigits count)
  | .error ⟨fault, left⟩ => .error (.malformed fault (placeAt s (s.length - left)))

def ReadFault.message : ReadFault → Text
  | .byteOrderMark => "Unexpected UTF-8 BOM (decode using utf-8-sig)"
  | .expectedValue => "Expecting value"
  | .expectedName => "Expecting property name enclosed in double quotes"
  | .expectedColon => "Expecting ':' delimiter"
  | .expectedComma => "Expecting ',' delimiter"
  | .extraData => "Extra data"
  | .controlCharacter => "Invalid control character at"
  | .unterminatedText => "Unterminated string starting at"
  | .badEscape => "Invalid \\escape"
  | .badUnicodeEscape => "Invalid \\uXXXX escape"
  | .tooManyDigits count =>
      Text.of "Exceeds the limit (4300 digits) for integer string conversion: value has " ++
        Text.ofNat count ++ Text.of " digits; use sys.set_int_max_str_digits() to increase the limit"

def Place.text (p : Place) : Text :=
  Text.of "line " ++ Text.ofNat p.line ++ Text.of " column " ++ Text.ofNat p.column ++
    Text.of " (char " ++ Text.ofNat p.offset ++ Text.of ")"

def ReadError.message : ReadError → Text
  | .malformed fault place => fault.message ++ Text.of ": " ++ place.text
  | .tooManyDigits count => ReadFault.message (.tooManyDigits count)

end UrlRules.Json
