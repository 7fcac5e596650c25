import UrlRules.Json.Basic
import UrlRules.Text.Utf8

/-!
# Configuration values

The values a configuration file can hold. JSON values are among them; beyond those there are dates,
instants, octets, pairs, sets, and mappings whose keys are values of any kind.
-/
namespace UrlRules

structure Date where
  year : Nat
  month : Nat
  day : Nat
  deriving DecidableEq, Repr, Inhabited

/-- A date with a time of day. `zone` is the distance from universal time in minutes. -/
structure Instant where
  date : Date
  hour : Nat
  minute : Nat
  second : Nat
  microsecond : Nat
  zone : Option Int
  deriving DecidableEq, Repr, Inhabited

inductive Value where
  | null
  | bool (b : Bool)
  | int (n : Int)
  | float (x : Binary64)
  | text (s : Text)
  | octets (bytes : List Text.Utf8.Octet)
  | date (d : Date)
  | instant (t : Instant)
  | list (items : List Value)
  | pair (first second : Value)
  | set (members : List Value)
  | mapping (entries : List (Value × Value))
  deriving Repr, Inhabited

mutual

/-- A JSON value as a configuration value. -/
def Json.toValue : Json → Value
  | .null => .null
  | .bool b => .bool b
  | .int n => .int n
  | .float x => .float x
  | .text s => .text s
  | .list items => .list (Json.toValues items)
  | .object fields => .mapping (Json.toEntries fields)

def Json.toValues : List Json → List Value
  | [] => []
  | item :: items => item.toValue :: Json.toValues items

def Json.toEntries : List (Text × Json) → List (Value × Value)
  | [] => []
  | (name, value) :: fields => (.text name, value.toValue) :: Json.toEntries fields

end

namespace Value

/-- Whether a value counts as given: not null, false, zero or empty. -/
def isTruthy : Value → Bool
  | .null => false
  | .bool b => b
  | .int n => n != 0
  | .float x => !x.isZero
  | .text s => !s.isEmpty
  | .octets bytes => !bytes.isEmpty
  | .date _ => true
  | .instant _ => true
  | .list items => !items.isEmpty
  | .pair .. => true
  | .set members => !members.isEmpty
  | .mapping entries => !entries.isEmpty

/-- The value under a key that is a text. -/
def lookup? (entries : List (Value × Value)) (key : Text) : Option Value :=
  entries.findSome? fun
    | (.text k, v) => if k = key then some v else none
    | _ => none

/-- The integer a value equals, if it is a number that equals one. -/
def asInteger? : Value → Option Int
  | .bool b => some (if b then 1 else 0)
  | .int n => some n
  | .float x => x.toInt?
  | _ => none

/-- Days before the first of January of a year, counted from year one. -/
def daysBeforeYear (year : Nat) : Nat :=
  let y := year - 1
  y * 365 + y / 4 - y / 100 + y / 400

def isLeapYear (year : Nat) : Bool := year % 4 == 0 && (year % 100 != 0 || year % 400 == 0)

def daysInMonth (year month : Nat) : Nat :=
  if month = 2 then if isLeapYear year then 29 else 28
  else if month = 4 ∨ month = 6 ∨ month = 9 ∨ month = 11 then 30
  else 31

def daysBeforeMonth (year month : Nat) : Nat :=
  ((List.range (month - 1)).map fun m => daysInMonth year (m + 1)).foldl (· + ·) 0

/-- Microseconds from the start of year one to an instant, on its own clock. -/
def clockTime (t : Instant) : Int :=
  let days := daysBeforeYear t.date.year + daysBeforeMonth t.date.year t.date.month + t.date.day
  ((((days * 24 + t.hour) * 60 + t.minute) * 60 + t.second) * 1000000 + t.microsecond : Nat)

/-- Two instants are the same if both lack a zone and agree, or if they agree in universal time. -/
def sameInstant (s t : Instant) : Bool :=
  match s.zone, t.zone with
  | none, none => clockTime s == clockTime t
  | some z, some w => clockTime s - z * 60000000 == clockTime t - w * 60000000
  | _, _ => false

/-- Whether two values are one key of a mapping. -/
def sameKey : Value → Value → Bool
  | .null, .null => true
  | .text a, .text b => a == b
  | .octets a, .octets b => a == b
  | .date a, .date b => a == b
  | .instant a, .instant b => sameInstant a b
  | .pair a b, .pair c d => sameKey a c && sameKey b d
  | a, b =>
      match asInteger? a, asInteger? b with
      | some m, some n => m == n
      | none, none =>
          match a, b with
          | .float x, .float y => x.same y
          | _, _ => false
      | _, _ => false

/-- Whether a value can be a key. -/
def isKey : Value → Bool
  | .list _ => false
  | .set _ => false
  | .mapping _ => false
  | .pair a b => isKey a && isKey b
  | _ => true

/-- Sets an entry: in place under the key that is there already, else at the end. -/
def setEntry (entries : List (Value × Value)) (key value : Value) : List (Value × Value) :=
  match entries with
  | [] => [(key, value)]
  | (k, v) :: rest => if sameKey k key then (k, value) :: rest else (k, v) :: setEntry rest key value

end Value
end UrlRules
