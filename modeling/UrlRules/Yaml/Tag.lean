import UrlRules.Text.Basic

/-!
# Tags

A tag tells the type of a node. One that is written is known by its full name. A plain scalar
without one has the tag of the first form that its text fits.
-/
namespace UrlRules.Yaml

open Text

inductive Tag where
  | null
  | bool
  | int
  | float
  | binary
  | timestamp
  | text
  | sequence
  | mapping
  | set
  | orderedMap
  | pairs
  | merge
  | value
  | other (name : Text)
  deriving DecidableEq, Repr, Inhabited

namespace Tag

/-- What the names of the tags of the language begin with. -/
def family : Text := "tag:yaml.org,2002:"

/-- The tags of the language by the rest of their names. -/
def known : List (Text × Tag) := [
  (Text.of "null", .null), (Text.of "bool", .bool), (Text.of "int", .int),
  (Text.of "float", .float), (Text.of "binary", .binary), (Text.of "timestamp", .timestamp),
  (Text.of "str", .text), (Text.of "seq", .sequence), (Text.of "map", .mapping),
  (Text.of "set", .set), (Text.of "omap", .orderedMap), (Text.of "pairs", .pairs),
  (Text.of "merge", .merge), (Text.of "value", .value)]

def ofName (name : Text) : Tag :=
  match (dropLead? family name).bind fun rest => List.lookup rest known with
  | some tag => tag
  | none => .other name

def name : Tag → Text
  | .other name => name
  | tag => family ++ ((known.find? (·.2 == tag)).map (·.1)).getD []

/-- Whether the value of a node with this tag is a collection. -/
def isCollection : Tag → Bool
  | .sequence | .mapping | .set | .orderedMap | .pairs => true
  | _ => false

end Tag

/-! ## The forms of plain scalars -/

namespace Form

def lowLine : CodePoint := 0x5F

def isDigitOrLow (c : CodePoint) : Bool := isAsciiDigit c || c == lowLine

def isSign (c : CodePoint) : Bool := c == 0x2B || c == 0x2D

/-- The text without a sign at its start. -/
def unsigned (s : Text) : Text :=
  match s with
  | c :: rest => if isSign c then rest else s
  | [] => []

def isTruthWord (s : Text) : Bool :=
  ["yes", "Yes", "YES", "no", "No", "NO", "true", "True", "TRUE", "false", "False", "FALSE",
    "on", "On", "ON", "off", "Off", "OFF"].any fun w => Text.of w == s

def isNullWord (s : Text) : Bool := ["~", "null", "Null", "NULL", ""].any fun w => Text.of w == s

/-- A digit and then digits and low lines. -/
def isWhole (s : Text) : Bool :=
  match s with
  | c :: rest => isAsciiDigit c && rest.all isDigitOrLow
  | [] => false

/-- Nothing, or `e`, a sign and digits. -/
def isExponentOrEmpty (s : Text) : Bool :=
  match s with
  | [] => true
  | e :: sign :: digits =>
      (e == 0x65 || e == 0x45) && isSign sign && !digits.isEmpty && digits.all isAsciiDigit
  | _ => false

/-- A place of a number in base sixty after the first: up to two digits. -/
def isSixty (s : Text) : Bool :=
  match s with
  | [d] => isAsciiDigit d
  | [tens, d] => 0x30 ≤ tens && tens ≤ 0x35 && isAsciiDigit d
  | _ => false

def isDecimalPoint (s : Text) : Bool :=
  match cut 0x2E s with
  | (whole, some places) =>
      let rest := places.dropWhile isDigitOrLow
      if whole.isEmpty then
        isWhole (places.takeWhile isDigitOrLow) && isExponentOrEmpty rest
      else isWhole whole && isExponentOrEmpty rest
  | (_, none) => false

def isSixtyPoint (s : Text) : Bool :=
  match cut 0x2E s with
  | (whole, some places) =>
      places.all isDigitOrLow &&
        (match splitOn 0x3A whole with
         | first :: next :: more => isWhole first && (next :: more).all isSixty
         | _ => false)
  | (_, none) => false

/-- Decimal numbers with a point, numbers in base sixty with one, infinities and not-a-number. A
number that begins with its point has no sign. -/
def isFloat (s : Text) : Bool :=
  let body := unsigned s
  (isDecimalPoint body && (body.head? != some 0x2E || body == s)) || isSixtyPoint body ||
    [".inf", ".Inf", ".INF"].any (fun w => Text.of w == body) ||
    [".nan", ".NaN", ".NAN"].any (fun w => Text.of w == s)

/-- Integers in base two, eight, ten, sixteen and sixty. -/
def isInt (s : Text) : Bool :=
  match unsigned s with
  | [] => false
  | [0x30] => true
  | 0x30 :: 0x62 :: digits =>
      !digits.isEmpty && digits.all fun c => c == 0x30 || c == 0x31 || c == lowLine
  | 0x30 :: 0x78 :: digits => !digits.isEmpty && digits.all fun c => isHexDigit c || c == lowLine
  | 0x30 :: digits => digits.all fun c => isOctalDigit c || c == lowLine
  | body =>
      match splitOn 0x3A body with
      | first :: more => isWhole first && more.all isSixty
      | [] => false

end Form
end UrlRules.Yaml
