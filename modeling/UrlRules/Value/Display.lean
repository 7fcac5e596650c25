import UrlRules.Number.Shortest
import UrlRules.Text.Integer
import UrlRules.Text.Quoted
import UrlRules.Value.Basic

/-!
# The text of a value

`Value.quoted` writes a value as messages quote it: texts between apostrophes, lists in brackets.
`Value.display` writes a text as it is, and any other value as it is quoted. A value that holds an integer
of too many digits is not written at all (`Value.isWritable`).
-/
namespace UrlRules

open Text

namespace Value

def padded (width n : Nat) : Text :=
  let digits := Text.ofNat n
  List.replicate (width - digits.length) 0x30 ++ digits

def commaSeparated (pieces : List Text) : Text := joinWith (Text.of ", ") pieces

/-- The text of an octet between apostrophes. -/
def quotedOctet (delimiter b : Utf8.Octet) : Text :=
  if b = delimiter ∨ b = backslash then [backslash, b]
  else if b = 0x09 then [backslash, 0x74]
  else if b = lineFeed then [backslash, 0x6E]
  else if b = carriageReturn then [backslash, 0x72]
  else if 0x20 ≤ b ∧ b < 0x7F then [b]
  else numericEscape b

def quotedOctets (bytes : List Utf8.Octet) : Text :=
  let delimiter := delimiterFor bytes
  0x62 :: delimiter :: bytes.flatMap (quotedOctet delimiter) ++ [delimiter]

def callText (name : String) (arguments : List Text) : Text :=
  Text.of name ++ 0x28 :: commaSeparated arguments ++ [0x29]

/-- The distance of a zone from universal time as days and seconds. -/
def durationText (minutes : Int) : Text :=
  let seconds := minutes * 60
  let days := seconds.fdiv 86400
  let rest := seconds.fmod 86400
  if seconds = 0 then callText "datetime.timedelta" [Text.of "0"]
  else
    callText "datetime.timedelta"
      ((if days = 0 then [] else [Text.of "days=" ++ ofInt days]) ++
        (if rest = 0 then [] else [Text.of "seconds=" ++ ofInt rest]))

def zoneText (minutes : Int) : Text :=
  if minutes = 0 then "datetime.timezone.utc"
  else callText "datetime.timezone" [durationText minutes]

def quotedInstant (t : Instant) : Text :=
  let numbers := [t.date.year, t.date.month, t.date.day, t.hour, t.minute]
  let seconds :=
    if t.second = 0 ∧ t.microsecond = 0 then []
    else if t.microsecond = 0 then [t.second]
    else [t.second, t.microsecond]
  let zone := t.zone.toList.map fun minutes => Text.of "tzinfo=" ++ zoneText minutes
  callText "datetime.datetime" ((numbers ++ seconds).map Text.ofNat ++ zone)

def dateText (d : Date) : Text :=
  padded 4 d.year ++ 0x2D :: padded 2 d.month ++ 0x2D :: padded 2 d.day

def instantText (t : Instant) : Text :=
  dateText t.date ++ 0x20 :: padded 2 t.hour ++ 0x3A :: padded 2 t.minute ++
    0x3A :: padded 2 t.second ++
    (if t.microsecond = 0 then [] else 0x2E :: padded 6 t.microsecond) ++
    (match t.zone with
     | none => []
     | some z =>
        (if z < 0 then 0x2D else 0x2B) :: padded 2 (z.natAbs / 60) ++
          0x3A :: padded 2 (z.natAbs % 60))

mutual

def quoted : Value → Text
  | .null => "None"
  | .bool b => if b then "True" else "False"
  | .int n => ofInt n
  | .float x => x.text
  | .text s => Text.quoted s
  | .octets bytes => quotedOctets bytes
  | .date d => callText "datetime.date" ([d.year, d.month, d.day].map Text.ofNat)
  | .instant t => quotedInstant t
  | .list items => 0x5B :: commaSeparated (quotedItems items) ++ [0x5D]
  | .pair a b => 0x28 :: quoted a ++ Text.of ", " ++ quoted b ++ [0x29]
  | .set members =>
      if members.isEmpty then "set()" else 0x7B :: commaSeparated (quotedItems members) ++ [0x7D]
  | .mapping entries => 0x7B :: commaSeparated (quotedEntries entries) ++ [0x7D]

def quotedItems : List Value → List Text
  | [] => []
  | item :: items => quoted item :: quotedItems items

def quotedEntries : List (Value × Value) → List Text
  | [] => []
  | (key, value) :: entries => (quoted key ++ Text.of ": " ++ quoted value) :: quotedEntries entries

end

/-- Whether an integer has few enough digits to be written. -/
def isShortInteger (n : Int) : Bool := n.natAbs < Nat.pow 10 maxDecimalDigits

mutual

/-- Whether each integer in a value can be written. -/
def isWritable : Value → Bool
  | .int n => isShortInteger n
  | .list items => areWritable items
  | .pair a b => isWritable a && isWritable b
  | .set members => areWritable members
  | .mapping entries => areWritableEntries entries
  | _ => true

def areWritable : List Value → Bool
  | [] => true
  | item :: items => isWritable item && areWritable items

def areWritableEntries : List (Value × Value) → Bool
  | [] => true
  | (key, value) :: entries => isWritable key && isWritable value && areWritableEntries entries

end

/-- The message that a value is not written. -/
def notWritable : Text :=
  "Exceeds the limit (4300 digits) for integer string conversion; use sys.set_int_max_str_digits() to increase the limit"

def display : Value → Text
  | .text s => s
  | .date d => dateText d
  | .instant t => instantText t
  | value => quoted value

end Value

namespace Json

def quoted (value : Json) : Text := value.toValue.quoted

def display (value : Json) : Text := value.toValue.display

def isWritable (value : Json) : Bool := value.toValue.isWritable

/-- The name of a value's kind in messages. -/
def kindName : Json → Text
  | .null => "NoneType"
  | .bool _ => "bool"
  | .int _ => "int"
  | .float _ => "float"
  | .text _ => "str"
  | .list _ => "list"
  | .object _ => "dict"

end Json
end UrlRules
