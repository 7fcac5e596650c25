import UrlRules.Json.Basic
import UrlRules.Number.Shortest

/-!
# Writing JSON

`Json.document` writes a document as rule files hold it: one item a line, two spaces a level, every
character beyond ASCII as it is, and a line feed at the end. `Json.compact` writes a value on one
line in ASCII.
-/
namespace UrlRules.Json

open Text

/-- The escape of a character that cannot stand for itself in any text. -/
def controlEscape? (c : CodePoint) : Option Text :=
  if c = 0x22 ∨ c = 0x5C then some [0x5C, c]
  else if c = 0x08 then some [0x5C, 0x62]
  else if c = 0x0C then some [0x5C, 0x66]
  else if c = 0x0A then some [0x5C, 0x6E]
  else if c = 0x0D then some [0x5C, 0x72]
  else if c = 0x09 then some [0x5C, 0x74]
  else if c < 0x20 then some (0x5C :: 0x75 :: hexPadded 4 c)
  else none

def openCharacter (c : CodePoint) : Text := (controlEscape? c).getD [c]

/-- A character in printable ASCII: any other one as one escape, or as two that form a surrogate pair. -/
def asciiCharacter (c : CodePoint) : Text :=
  match controlEscape? c with
  | some e => e
  | none =>
      if c < 0x7F then [c]
      else if c < 0x10000 then 0x5C :: 0x75 :: hexPadded 4 c
      else
        let high := 0xD800 + (c - 0x10000) / 0x400
        let low := 0xDC00 + (c - 0x10000) % 0x400
        0x5C :: 0x75 :: hexPadded 4 high ++ 0x5C :: 0x75 :: hexPadded 4 low

def writeText (character : CodePoint → Text) (s : Text) : Text :=
  0x22 :: s.flatMap character ++ [0x22]

def floatText : Binary64 → Text
  | .notANumber => "NaN"
  | .infinite negative => if negative then "-Infinity" else "Infinity"
  | x => x.text

def scalarText (character : CodePoint → Text) : Json → Text
  | .bool true => "true"
  | .bool false => "false"
  | .int n => ofInt n
  | .float x => floatText x
  | .text s => writeText character s
  | _ => "null"

/-- A line feed and the blanks of a level. -/
def newLine (level : Nat) : Text := lineFeed :: List.replicate (2 * level) space

mutual

/-- Writes a value whose inner lines stand one level deeper than `level`. -/
def indented (level : Nat) : Json → Text
  | .list [] => "[]"
  | .list (item :: items) =>
      0x5B :: newLine (level + 1) ++ indented (level + 1) item ++ indentedItems level items
  | .object [] => "{}"
  | .object ((name, value) :: fields) =>
      0x7B :: newLine (level + 1) ++ writeText openCharacter name ++ Text.of ": " ++
        indented (level + 1) value ++ indentedFields level fields
  | value => scalarText openCharacter value

/-- The items after the first one, and the end of the list. -/
def indentedItems (level : Nat) : List Json → Text
  | [] => newLine level ++ [0x5D]
  | item :: items =>
      0x2C :: newLine (level + 1) ++ indented (level + 1) item ++ indentedItems level items

/-- The fields after the first one, and the end of the object. -/
def indentedFields (level : Nat) : List (Text × Json) → Text
  | [] => newLine level ++ [0x7D]
  | (name, value) :: fields =>
      0x2C :: newLine (level + 1) ++ writeText openCharacter name ++ Text.of ": " ++
        indented (level + 1) value ++ indentedFields level fields

end

/-- The text of a rule file. -/
def document (value : Json) : Text := indented 0 value ++ [lineFeed]

mutual

def compact : Json → Text
  | .list [] => "[]"
  | .list (item :: items) => 0x5B :: compact item ++ compactItems items
  | .object [] => "{}"
  | .object ((name, value) :: fields) =>
      0x7B :: writeText asciiCharacter name ++ Text.of ": " ++ compact value ++
        compactFields fields
  | value => scalarText asciiCharacter value

def compactItems : List Json → Text
  | [] => [0x5D]
  | item :: items => Text.of ", " ++ compact item ++ compactItems items

def compactFields : List (Text × Json) → Text
  | [] => [0x7D]
  | (name, value) :: fields =>
      Text.of ", " ++ writeText asciiCharacter name ++ Text.of ": " ++ compact value ++
        compactFields fields

end

end UrlRules.Json
