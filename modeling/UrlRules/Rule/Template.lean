import UrlRules.Pattern.Search
import UrlRules.Text.Percent

/-!
# Templates

In a template `$N` and `${N}` stand for the text of group N, with digits of any script. The text of
a group is inserted decoded. A reference to a group that the pattern does not have stays as it is.
-/
namespace UrlRules.Template

open Text

def dollarSign : CodePoint := 0x24
def openBrace : CodePoint := 0x7B
def closeBrace : CodePoint := 0x7D

inductive Piece where
  | literal (c : CodePoint)
  | reference (digits : Text) (braces : Bool)
  deriving DecidableEq, Repr

/-- The reference after a dollar sign, and the rest of the text after it. -/
def reference? (s : Text) : Option (Piece × Text) :=
  let digits := s.takeWhile isDigit
  if !digits.isEmpty then some (.reference digits false, s.drop digits.length)
  else
    match s with
    | [] => none
    | c :: inner =>
        let digits := inner.takeWhile isDigit
        if c = openBrace ∧ !digits.isEmpty ∧ (inner.drop digits.length).head? = some closeBrace then
          some (.reference digits true, inner.drop (digits.length + 1))
        else none

theorem reference?_length {s rest : Text} {piece : Piece} (h : reference? s = some (piece, rest)) :
    rest.length ≤ s.length := by
  unfold reference? at h
  dsimp only at h
  split at h
  · cases h
    simp
  · split at h
    · contradiction
    · split at h
      · cases h
        simp only [List.length_drop, List.length_cons]
        omega
      · contradiction

/-- The pieces of a template. -/
def pieces : Text → List Piece
  | [] => []
  | c :: rest =>
      if c = dollarSign then
        match _h : reference? rest with
        | some (piece, rest') => piece :: pieces rest'
        | none => .literal c :: pieces rest
      else .literal c :: pieces rest
  termination_by s => s.length
  decreasing_by
    · simpa using Nat.lt_succ_of_le (reference?_length _h)
    all_goals simp

/-- The text of a piece as it stands in the template. -/
def Piece.written : Piece → Text
  | .literal c => [c]
  | .reference digits false => dollarSign :: digits
  | .reference digits true => dollarSign :: openBrace :: digits ++ [closeBrace]

/-- A reference with more digits than are converted. -/
structure TooManyDigits where
  count : Nat
  deriving DecidableEq, Repr

/-- The number of a reference. -/
def number (digits : Text) : Nat := digitsValue 10 (digits.filterMap digitValue?)

def maxDigits : Nat := 4300

/-- The text that a piece stands for after a match. -/
def Piece.expand (groups : Nat) (group? : Nat → Option Text) : Piece → Except TooManyDigits Text
  | .literal c => .ok [c]
  | .reference digits braces =>
      if maxDigits < digits.length then .error ⟨digits.length⟩
      else
        let n := number digits
        if n < 1 ∨ groups < n then .ok (Piece.written (.reference digits braces))
        else
          match group? n with
          | none => .ok []
          | some s => .ok (Percent.decode s)

/-- The template with its references replaced. -/
def expand (template : Text) (groups : Nat) (group? : Nat → Option Text) :
    Except TooManyDigits Text := do
  return ((← (pieces template).mapM (Piece.expand groups group?))).flatten

/-- The template expanded with the groups of a match. -/
def expandMatch (template : Text) (p : Pattern) (m : Pattern.Match) : Except TooManyDigits Text :=
  expand template p.groups m.group?

end UrlRules.Template
