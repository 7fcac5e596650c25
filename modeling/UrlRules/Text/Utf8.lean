import UrlRules.Text.Basic

/-!
# UTF-8

`encode` writes a text as octets. A reader goes octet by octet: between characters it takes a lead
octet, and after one it owes continuation octets whose first may be restricted further. Where an
octet cannot continue, the octets read so far form one malformed part and reading starts again at
that octet, so each malformed part is as long as possible.
-/
namespace UrlRules.Text.Utf8

abbrev Octet := Nat

def replacement : CodePoint := 0xFFFD

/-- The octets of a code point below 2^21. -/
def encodeOne (c : CodePoint) : List Octet :=
  if c < 0x80 then [c]
  else if c < 0x800 then [0xC0 + c / 0x40, 0x80 + c % 0x40]
  else if c < 0x10000 then [0xE0 + c / 0x1000, 0x80 + c / 0x40 % 0x40, 0x80 + c % 0x40]
  else [0xF0 + c / 0x40000, 0x80 + c / 0x1000 % 0x40, 0x80 + c / 0x40 % 0x40, 0x80 + c % 0x40]

def encode (s : Text) : List Octet := s.flatMap encodeOne

/-- The octets of a text, if it holds no lone surrogate. -/
def encode? (s : Text) : Option (List Octet) := if isScalar s then some (encode s) else none

/-- What is known in the middle of a character: the continuation octets still due, the range of the
next one, and the bits read so far. -/
structure Pending where
  due : Nat
  low : Octet
  high : Octet
  bits : Nat
  deriving DecidableEq, Repr

/-- What a lead octet of a longer character announces. -/
def lead? (b : Octet) : Option Pending :=
  if 0xC2 ≤ b ∧ b ≤ 0xDF then some ⟨1, 0x80, 0xBF, b - 0xC0⟩
  else if b = 0xE0 then some ⟨2, 0xA0, 0xBF, 0⟩
  else if b = 0xED then some ⟨2, 0x80, 0x9F, 0xD⟩
  else if 0xE1 ≤ b ∧ b ≤ 0xEF then some ⟨2, 0x80, 0xBF, b - 0xE0⟩
  else if b = 0xF0 then some ⟨3, 0x90, 0xBF, 0⟩
  else if 0xF1 ≤ b ∧ b ≤ 0xF3 then some ⟨3, 0x80, 0xBF, b - 0xF0⟩
  else if b = 0xF4 then some ⟨3, 0x80, 0x8F, 4⟩
  else none

/-- Reads an octet between characters: what it completes, and what it leaves open. -/
def start (b : Octet) : List (Option CodePoint) × Option Pending :=
  if b < 0x80 then ([some b], none)
  else
    match lead? b with
    | some pending => ([], some pending)
    | none => ([none], none)

/-- Reads one octet. A malformed part is written `none`. -/
def step : Option Pending → Octet → List (Option CodePoint) × Option Pending
  | none, b => start b
  | some p, b =>
      if p.low ≤ b ∧ b ≤ p.high then
        let bits := p.bits * 0x40 + (b - 0x80)
        if p.due ≤ 1 then ([some bits], none) else ([], some ⟨p.due - 1, 0x80, 0xBF, bits⟩)
      else
        let (parts, pending) := start b
        (none :: parts, pending)

/-- The characters and malformed parts of an octet sequence. -/
def parts : Option Pending → List Octet → List (Option CodePoint)
  | none, [] => []
  | some _, [] => [none]
  | pending, b :: rest =>
      let (read, pending) := step pending b
      read ++ parts pending rest

/-- Reads octets and puts U+FFFD for each malformed part. -/
def decodeLossy (octets : List Octet) : Text :=
  (parts none octets).map (·.getD replacement)

/-- Reads octets that hold no malformed part. -/
def decode? (octets : List Octet) : Option Text := (parts none octets).mapM id

inductive Fault where
  | start
  | continuation
  | endOfData
  deriving DecidableEq, Repr

/-- A malformed part: its fault, the position of its first octet, and how many octets it has. -/
structure Malformed where
  fault : Fault
  first : Nat
  size : Nat
  deriving DecidableEq, Repr

/-- The first malformed part of an octet sequence that goes on at a position. `first` is where the
pending character began. -/
def malformed? : Option Pending → (first position : Nat) → List Octet → Option Malformed
  | none, _, _, [] => none
  | some _, first, position, [] => some ⟨.endOfData, first, position - first⟩
  | none, _, position, b :: rest =>
      if b < 0x80 then malformed? none (position + 1) (position + 1) rest
      else
        match lead? b with
        | some pending => malformed? (some pending) position (position + 1) rest
        | none => some ⟨.start, position, 1⟩
  | some p, first, position, b :: rest =>
      if b < p.low ∨ p.high < b then some ⟨.continuation, first, position - first⟩
      else if p.due ≤ 1 then malformed? none (position + 1) (position + 1) rest
      else malformed? (some ⟨p.due - 1, 0x80, 0xBF, 0⟩) first (position + 1) rest

end UrlRules.Text.Utf8
