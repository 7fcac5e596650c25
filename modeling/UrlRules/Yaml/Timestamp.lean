import UrlRules.Value.Basic
import UrlRules.Yaml.Error

/-!
# Dates and times

A date is written `2001-12-14`. A time of day may follow it after a `T` or blanks, with a fraction of
a second and a zone.
-/
namespace UrlRules.Yaml

open Text

/-- The parts of a time of day as they are written. The zone is in minutes. -/
structure WrittenTime where
  hour : Nat
  minute : Nat
  second : Nat
  fraction : Text
  zone : Option Int
  deriving DecidableEq, Repr

/-- `padded` tells whether month and day have two digits each. -/
structure WrittenDate where
  date : Date
  padded : Bool
  time : Option WrittenTime
  deriving DecidableEq, Repr

namespace WrittenDate

def number (digits : Text) : Nat := digitsValue 10 (digits.map (· - 0x30))

/-- Takes between `least` and `most` digits. -/
def takeDigits (least most : Nat) (s : Text) : Option (Text × Text) :=
  let digits := (s.take most).takeWhile isAsciiDigit
  if least ≤ digits.length then some (digits, s.drop digits.length) else none

def takeCharacter (c : CodePoint) (s : Text) : Option Text := dropLead? [c] s

def isTabOrSpace (c : CodePoint) : Bool := c == 0x20 || c == 0x09

/-- The zone at the end of a time: nothing, `Z`, or a signed distance. -/
def zone? (s : Text) : Option (Option Int) :=
  match s.dropWhile isTabOrSpace with
  | [] => if s.isEmpty then some none else none
  | [0x5A] => some (some 0)
  | sign :: rest => do
      if sign ≠ 0x2B ∧ sign ≠ 0x2D then none
      let (hours, rest) ← takeDigits 1 2 rest
      let minutes ←
        match rest with
        | [] => some []
        | _ => do
            let (minutes, rest) ← takeDigits 2 2 (← takeCharacter 0x3A rest)
            if rest.isEmpty then some minutes else none
      let distance : Int := number hours * 60 + number minutes
      return some (if sign = 0x2D then -distance else distance)

def time? (s : Text) : Option WrittenTime := do
  let (hour, s) ← takeDigits 1 2 s
  let (minute, s) ← takeDigits 2 2 (← takeCharacter 0x3A s)
  let (second, s) ← takeDigits 2 2 (← takeCharacter 0x3A s)
  let (fraction, s) :=
    match s with
    | 0x2E :: rest => (rest.takeWhile isAsciiDigit, rest.dropWhile isAsciiDigit)
    | s => ([], s)
  let zone ← zone? s
  return ⟨number hour, number minute, number second, fraction, zone⟩

def read? (s : Text) : Option WrittenDate := do
  let (year, s) ← takeDigits 4 4 s
  let (month, s) ← takeDigits 1 2 (← takeCharacter 0x2D s)
  let (day, s) ← takeDigits 1 2 (← takeCharacter 0x2D s)
  let time ←
    match s with
    | [] => some none
    | c :: rest =>
        if c = 0x54 ∨ c = 0x74 then (time? rest).map some
        else if isTabOrSpace c then (time? (rest.dropWhile isTabOrSpace)).map some
        else none
  return ⟨⟨number year, number month, number day⟩, month.length = 2 ∧ day.length = 2, time⟩

/-- Whether a plain scalar is a date: without a time, month and day need two digits. -/
def isPlain (s : Text) : Bool :=
  match read? s with
  | some d => d.padded || d.time.isSome
  | none => false

def checkDate (d : Date) : Except DateFault Date :=
  if d.year = 0 then .error (.year d.year)
  else if d.month = 0 ∨ 12 < d.month then .error .month
  else if d.day = 0 ∨ Value.daysInMonth d.year d.month < d.day then .error .day
  else .ok d

/-- The first six digits of a fraction, as a number of microseconds. -/
def microseconds (fraction : Text) : Nat :=
  let digits := fraction.take 6
  number digits * Nat.pow 10 (6 - digits.length)

def dayMinutes : Int := 1440

/-- The value of a date. The zone is checked first, then the date, then the time. -/
def toValue (w : WrittenDate) : Except DateFault Value :=
  match w.time with
  | none => do return .date (← checkDate w.date)
  | some t => do
      match t.zone with
      | some z => if z ≤ -dayMinutes ∨ dayMinutes ≤ z then throw (.zone z)
      | none => pure ()
      let date ← checkDate w.date
      if 23 < t.hour then throw .hour
      if 59 < t.minute then throw .minute
      if 59 < t.second then throw .second
      return .instant
        { date, hour := t.hour, minute := t.minute, second := t.second
          microsecond := microseconds t.fraction, zone := t.zone }

end WrittenDate
end UrlRules.Yaml
