import UrlRules.Text.Basic
import UrlRules.Yaml.Error

/-!
# A place in a document that is being read

A cursor holds what is left of the text and where it stands. At the end the next character reads as
zero, which no document can hold.
-/
namespace UrlRules.Yaml

open Text

def isBreak (c : CodePoint) : Bool :=
  c == lineFeed || c == carriageReturn || c == 0x85 || c == 0x2028 || c == 0x2029

/-- Whether a character ends its line, or is the end of the document. -/
def isLineEnd (c : CodePoint) : Bool := c == 0 || isBreak c

def isSpaceOrEnd (c : CodePoint) : Bool := c == space || isLineEnd c

/-- Whether a character separates tokens. -/
def isGap (c : CodePoint) : Bool := c == 0x09 || isSpaceOrEnd c

def isSpaceOrTab (c : CodePoint) : Bool := c == space || c == 0x09

structure Cursor where
  rest : Text
  index : Nat
  line : Nat
  column : Nat
  deriving DecidableEq, Repr, Inhabited

namespace Cursor

def start (s : Text) : Cursor := ⟨s, 0, 0, 0⟩

def mark (c : Cursor) : Mark := ⟨c.line, c.column⟩

/-- The character `n` places ahead. -/
def peek (c : Cursor) (n : Nat) : CodePoint := c.rest.getD n 0

def next (c : Cursor) : CodePoint := c.peek 0

/-- Passes one character. A carriage return before a line feed does not end the line, and a byte
order mark takes no column. -/
def step (c : Cursor) : Cursor :=
  match c.rest with
  | [] => c
  | ch :: rest =>
      if isBreak ch && !(ch == carriageReturn && rest.head? == some lineFeed) then
        ⟨rest, c.index + 1, c.line + 1, 0⟩
      else ⟨rest, c.index + 1, c.line, if ch = 0xFEFF then c.column else c.column + 1⟩

def advance : Nat → Cursor → Cursor
  | 0, c => c
  | n + 1, c => advance n c.step

/-- Takes characters as long as they are of a class. -/
def takeWhile (c : Cursor) (keep : CodePoint → Bool) : Text × Cursor :=
  let taken := c.rest.takeWhile keep
  (taken, c.advance taken.length)

def skipWhile (c : Cursor) (keep : CodePoint → Bool) : Cursor := (c.takeWhile keep).2

def skipSpaces (c : Cursor) : Cursor := c.skipWhile (· == space)

/-- Skips a comment if one starts here. -/
def skipComment (c : Cursor) : Cursor :=
  if c.next = 0x23 then c.skipWhile fun ch => !isBreak ch else c

/-- Takes a line break, which reads as a line feed unless it is a separator of lines or paragraphs;
nothing if there is none. -/
def lineBreak (c : Cursor) : Text × Cursor :=
  let ch := c.next
  if ch = 0x2028 ∨ ch = 0x2029 then ([ch], c.step)
  else if isBreak ch then
    ([lineFeed], if ch = carriageReturn ∧ c.peek 1 = lineFeed then c.step.step else c.step)
  else ([], c)

/-- Whether three of a character stand here before a gap. -/
def atTriple (c : Cursor) (ch : CodePoint) : Bool :=
  c.rest.take 3 == [ch, ch, ch] && isGap (c.peek 3)

/-- Whether a mark of the start or end of a document stands here, if this is the start of a line. -/
def atSeparator (c : Cursor) : Bool := c.atTriple 0x2D || c.atTriple 0x2E

/-- An error here in something that began at a mark. -/
def fail {α : Type} (c : Cursor) (context : Context) (began : Mark) (cause : Cause) :
    Except Error α :=
  .error (.malformed (some (context, some began)) cause c.mark)

/-- The next character is not the wanted one. -/
def unexpected {α : Type} (c : Cursor) (context : Context) (began : Mark) (wanted : Wanted) :
    Except Error α :=
  c.fail context began (.expected wanted [c.next])

/-- Skips spaces and a comment up to the end of the line, and its break. -/
def skipLine (c : Cursor) (context : Context) (began : Mark) : Except Error Cursor :=
  let c := c.skipSpaces.skipComment
  if isLineEnd c.next then .ok c.lineBreak.2 else c.unexpected context began .commentOrBreak

end Cursor
end UrlRules.Yaml
