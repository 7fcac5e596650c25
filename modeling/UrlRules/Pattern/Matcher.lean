import UrlRules.Pattern.CharSet

/-!
# Matching

An expression is matched at a point of a text, and then what comes after it is matched: the goal.
Alternatives are tried in order, and the first way that reaches the goal counts. A point knows the
text on both sides of it and where the groups opened and closed last. A group is set if it has
closed at or after the place where it opened.

A repeat first takes its least number of rounds. Each further round has to start at another place
than the round before it, so there is at most one more of them than characters left.
-/
namespace UrlRules.Pattern

open Text

/-- A place where a group opened or closed. -/
structure Mark where
  group : Nat
  closes : Bool
  place : Nat
  deriving DecidableEq, Repr

structure Point where
  /-- The text before the point, nearest first. -/
  before : Text
  rest : Text
  place : Nat
  marks : List Mark
  deriving DecidableEq, Repr

namespace Point

def start (s : Text) : Point := ⟨[], s, 0, []⟩

/-- Passes a character. -/
def step (p : Point) (c : CodePoint) (rest : Text) : Point :=
  { p with before := c :: p.before, rest, place := p.place + 1 }

/-- Goes back over one character. -/
def back (p : Point) : Point :=
  match p.before with
  | [] => p
  | c :: before => { p with before, rest := c :: p.rest, place := p.place - 1 }

def backBy : Nat → Point → Point
  | 0, p => p
  | n + 1, p => backBy n p.back

def setMark (marks : List Mark) (mark : Mark) : List Mark :=
  match marks with
  | [] => [mark]
  | m :: marks =>
      if m.group = mark.group ∧ m.closes = mark.closes then mark :: marks
      else m :: setMark marks mark

def record (p : Point) (group : Nat) (closes : Bool) : Point :=
  { p with marks := setMark p.marks ⟨group, closes, p.place⟩ }

def markOf? (marks : List Mark) (group : Nat) (closes : Bool) : Option Nat :=
  (marks.find? fun m => m.group == group && m.closes == closes).map (·.place)

/-- Where a group starts and ends, if it is set. -/
def spanOf? (marks : List Mark) (group : Nat) : Option (Nat × Nat) :=
  match markOf? marks group false, markOf? marks group true with
  | some first, some last => if first ≤ last then some (first, last) else none
  | _, _ => none

end Point

/-- The piece of a text between two places. -/
def slice (s : Text) (first last : Nat) : Text := (s.drop first).take (last - first)

abbrev Goal := Point → Option Point

/-- Passes as many characters as an expression for one character matches, up to a number of them.
Gives the number and the point. -/
def passUnits (test : CodePoint → Bool) : Nat → Nat → Point → Nat × Point
  | 0, count, p => (count, p)
  | left + 1, count, p =>
      match p.rest with
      | [] => (count, p)
      | c :: rest => if test c then passUnits test left (count + 1) (p.step c rest) else (count, p)

/-- Tries the goal at a point and up to `extra` characters before it, farthest first. -/
def tryBackwards (goal : Goal) : Nat → Goal
  | 0, p => goal p
  | extra + 1, p =>
      match goal p with
      | some q => some q
      | none => tryBackwards goal extra p.back

/-- Tries the goal at a point and after up to `left` more characters, nearest first. -/
def tryForwards (test : CodePoint → Bool) (goal : Goal) : Nat → Goal
  | 0, p => goal p
  | left + 1, p =>
      match goal p with
      | some q => some q
      | none =>
          match p.rest with
          | [] => none
          | c :: rest => if test c then tryForwards test goal left (p.step c rest) else none

/-- The most rounds of one character each that can be taken. -/
def unitRounds (most : Option Nat) (p : Point) : Nat :=
  match most with
  | some n => min n p.rest.length
  | none => p.rest.length

/-- Repeats an expression for one character. -/
def loopUnits (test : CodePoint → Bool) (greed : Greed) (least : Nat) (most : Option Nat)
    (goal : Goal) : Goal := fun p =>
  let rounds := unitRounds most p
  match greed with
  | .greedy =>
      let (count, q) := passUnits test rounds 0 p
      if count < least then none else tryBackwards goal (count - least) q
  | .possessive =>
      let (count, q) := passUnits test rounds 0 p
      if count < least then none else goal q
  | .lazy =>
      let (count, q) := passUnits test (min least rounds) 0 p
      if count < least then none else tryForwards test goal (rounds - least) q

/-- Takes a number of rounds. -/
def rounds (body : Goal → Goal) : Nat → Goal → Goal
  | 0, goal => goal
  | n + 1, goal => body (rounds body n goal)

/-- The number of further rounds that can start at different places. -/
def furtherRounds (least : Nat) (most : Option Nat) (p : Point) : Nat :=
  match most with
  | some n => min (n - least) (p.rest.length + 1)
  | none => p.rest.length + 1

/-- Takes further rounds first, and goes on to the goal where they fail. -/
def loopGreedy (body : Goal → Goal) (goal : Goal) : Nat → Option Nat → Goal
  | 0, _, p => goal p
  | left + 1, last, p =>
      if last = some p.place then goal p
      else
        match body (loopGreedy body goal left (some p.place)) p with
        | some q => some q
        | none => goal p

/-- Goes on to the goal first, and takes further rounds where it fails. -/
def loopLazy (body : Goal → Goal) (goal : Goal) : Nat → Option Nat → Goal
  | 0, _, p => goal p
  | left + 1, last, p =>
      match goal p with
      | some q => some q
      | none =>
          if last = some p.place then none
          else body (loopLazy body goal left (some p.place)) p

/-- Takes further rounds as long as they match, and never fewer. -/
def loopPossessive (body : Goal → Goal) (goal : Goal) : Nat → Option Nat → Goal
  | 0, _, p => goal p
  | left + 1, last, p =>
      if last = some p.place then goal p
      else
        match body some p with
        | some q => loopPossessive body goal left (some p.place) q
        | none => goal p

/-- Takes a number of rounds, each in its first way only. -/
def roundsPossessive (body : Goal → Goal) : Nat → Point → Option Point
  | 0, p => some p
  | n + 1, p =>
      match body some p with
      | some q => roundsPossessive body n q
      | none => none

/-- Repeats an expression. -/
def loopRounds (body : Goal → Goal) (greed : Greed) (least : Nat) (most : Option Nat)
    (goal : Goal) : Goal :=
  match greed with
  | .greedy => rounds body least fun p => loopGreedy body goal (furtherRounds least most p) none p
  | .lazy => rounds body least fun p => loopLazy body goal (furtherRounds least most p) none p
  | .possessive => fun p =>
      match roundsPossessive body least p with
      | some q => loopPossessive body goal (furtherRounds least most q) none q
      | none => none

/-- Whether the character before and the one after a point differ in being part of a word. -/
def atWordBoundary (f : Flags) (p : Point) : Bool :=
  let isWord (c : Option CodePoint) : Bool := (c.map (Category.holds f · .word)).getD false
  isWord p.before.head? != isWord p.rest.head?

/-- A text without characters has no word boundary, and no place without one either. -/
def Anchor.holds (f : Flags) (p : Point) : Anchor → Bool
  | .textStart => p.before.isEmpty
  | .textEnd => p.rest.isEmpty
  | .lineStart => p.before.isEmpty || (f.multiLine && p.before.head? == some lineFeed)
  | .lineEnd =>
      p.rest.isEmpty || p.rest == [lineFeed] ||
        (f.multiLine && p.rest.head? == some lineFeed)
  | .wordBoundary => atWordBoundary f p
  | .noWordBoundary => !(p.before.isEmpty && p.rest.isEmpty) && !atWordBoundary f p

/-- Passes a piece of text, in either case if case is ignored. -/
def passText (f : Flags) : Text → Goal
  | [], p => some p
  | c :: piece, p =>
      match p.rest with
      | [] => none
      | x :: rest =>
          if (if f.ignoreCase then f.lower c == f.lower x else c == x) then
            passText f piece (p.step x rest)
          else none

/-- Matches an expression in the text `subject`, and then the goal. -/
def Node.run (subject : Text) (widths : Nat → Width) : Node → Flags → Goal → Goal
  | .empty, _, goal => goal
  | .anchor a, f, goal => fun p => if a.holds f p then goal p else none
  | .backref index, f, goal => fun p =>
      match Point.spanOf? p.marks index with
      | none => none
      | some (first, last) => (passText f (slice subject first last) p).bind goal
  | .seq a b, f, goal => a.run subject widths f (b.run subject widths f goal)
  | .alt a b, f, goal => fun p =>
      match a.run subject widths f goal p with
      | some q => some q
      | none => b.run subject widths f goal p
  | .group none on off body, f, goal => body.run subject widths (f.within on off) goal
  | .group (some index) on off body, f, goal => fun p =>
      body.run subject widths (f.within on off) (fun q => goal (q.record index true))
        (p.record index false)
  | .atomic body, f, goal => fun p => (body.run subject widths f some p).bind goal
  | .look behind negated body, f, goal => fun p =>
      let back := if behind then (body.width widths).least else 0
      let found :=
        if p.place < back then none else body.run subject widths f some (p.backBy back)
      match found with
      | some q => if negated then none else goal { p with marks := q.marks }
      | none => if negated then goal p else none
  | .choice index present absent, f, goal => fun p =>
      if (Point.spanOf? p.marks index).isSome then present.run subject widths f goal p
      else absent.run subject widths f goal p
  | .loop greed least most body, f, goal =>
      if body.isUnit then loopUnits (body.matchesUnit f) greed least most goal
      else loopRounds (body.run subject widths f) greed least most goal
  | unit, f, goal => fun p =>
      match p.rest with
      | [] => none
      | c :: rest => if unit.matchesUnit f c then goal (p.step c rest) else none

end UrlRules.Pattern
