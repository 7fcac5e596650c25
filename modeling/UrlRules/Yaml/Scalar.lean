import UrlRules.Yaml.Cursor
import UrlRules.Yaml.Token

/-!
# Scalars

Plain, quoted and block scalars. Line breaks inside plain and quoted scalars are folded: a single
one reads as a space, and of several all but the first stay.
-/
namespace UrlRules.Yaml

open Text

/-- The text of a line break and the breaks after it, folded. -/
def folded (first breaks : Text) : Text :=
  if first ≠ [lineFeed] then first ++ breaks
  else if breaks.isEmpty then [space]
  else breaks

/-! ## Plain scalars -/

/-- The characters that end a plain scalar inside brackets. -/
def isFlowIndicator (c : CodePoint) : Bool :=
  c == 0x2C || c == 0x3F || c == 0x5B || c == 0x5D || c == 0x7B || c == 0x7D

/-- Whether a colon before this character ends a plain scalar. -/
def endsPlainKey (flow : Bool) (next : CodePoint) : Bool :=
  isGap next || (flow && (isFlowIndicator next && next != 0x3F))

/-- The length of the words at the start of a text that belong to a plain scalar. -/
def plainLength (flow : Bool) : Text → Nat
  | [] => 0
  | c :: rest =>
      if isGap c || (c == 0x3A && endsPlainKey flow (rest.headD 0)) || (flow && isFlowIndicator c)
      then 0
      else plainLength flow rest + 1

/-- What follows the words of a plain scalar: spaces, or a folded line break. `crossed` tells
whether a line ended. -/
structure PlainGap where
  text : Text
  crossed : Bool
  rest : Cursor

/-- Takes line breaks and spaces, except at a mark of a document. -/
def plainBreaks : Nat → Text → Cursor → Option Text × Cursor
  | 0, breaks, c => (some breaks, c)
  | fuel + 1, breaks, c =>
      if c.next = space then plainBreaks fuel breaks c.step
      else
        match c.lineBreak with
        | ([], c) => (some breaks, c)
        | (b, c) => if c.atSeparator then (none, c) else plainBreaks fuel (breaks ++ b) c

def plainGap (c : Cursor) : PlainGap :=
  let (spaces, c) := c.takeWhile (· == space)
  match c.lineBreak with
  | ([], c) => ⟨spaces, false, c⟩
  | (first, c) =>
      if c.atSeparator then ⟨[], true, c⟩
      else
        match plainBreaks c.rest.length [] c with
        | (none, c) => ⟨[], true, c⟩
        | (some breaks, c) => ⟨folded first breaks, true, c⟩

/-- A plain scalar: its text, the end of its last word, whether a line ended after that, and what is
left. -/
structure PlainScalar where
  text : Text
  stop : Mark
  crossed : Bool
  rest : Cursor

/-- Reads further words of a plain scalar, after those in `read` and a gap. Outside brackets its
lines have to be indented. -/
def readPlainWords (flow : Bool) (indent : Int) :
    Nat → (read gap : Text) → (stop : Mark) → (crossed : Bool) → Cursor → PlainScalar
  | 0, read, _, stop, crossed, c => ⟨read, stop, crossed, c⟩
  | fuel + 1, read, gap, stop, crossed, c =>
      let size := plainLength flow c.rest
      if c.next = 0x23 ∨ size = 0 then ⟨read, stop, crossed, c⟩
      else
        let read := read ++ gap ++ c.rest.take size
        let c := c.advance size
        let gap := plainGap c
        if gap.text.isEmpty ∨ gap.rest.next = 0x23 ∨ (!flow ∧ gap.rest.column < indent) then
          ⟨read, c.mark, gap.crossed, gap.rest⟩
        else readPlainWords flow indent fuel read gap.text c.mark gap.crossed gap.rest

def readPlain (flow : Bool) (indent : Int) (c : Cursor) : PlainScalar :=
  readPlainWords flow (indent + 1) c.rest.length [] [] c.mark false c

/-! ## Quoted scalars -/

/-- The character that a one-letter escape stands for. -/
def escaped? (c : CodePoint) : Option CodePoint :=
  [(0x30, 0x00), (0x61, 0x07), (0x62, 0x08), (0x74, 0x09), (0x09, 0x09), (0x6E, 0x0A),
    (0x76, 0x0B), (0x66, 0x0C), (0x72, 0x0D), (0x65, 0x1B), (0x20, 0x20), (0x22, 0x22),
    (0x5C, 0x5C), (0x2F, 0x2F), (0x4E, 0x85), (0x5F, 0xA0), (0x4C, 0x2028), (0x50, 0x2029)].lookup c

/-- The number of digits of an escape by number. -/
def escapeDigits? (c : CodePoint) : Option Nat :=
  [(0x78, 2), (0x75, 4), (0x55, 8)].lookup c

/-- The first of the next `n` characters that is no hexadecimal digit. -/
def nonHex? (c : Cursor) (n : Nat) : Option CodePoint :=
  ((List.range n).map c.peek).find? fun ch => !isHexDigit ch

def hexNumber (digits : Text) : Nat := digitsValue 16 (digits.filterMap hexValue?)

/-- Escapes beyond this number cannot be compared with code points. -/
def largestEscape : Nat := 0x7FFFFFFF

def characterNumbered (n : Nat) : Except Error CodePoint :=
  if n ≤ maxCodePoint then .ok n
  else .error (.scalar (if n ≤ largestEscape then .noCodePoint else .codePointTooLarge))

/-- Takes the breaks of lines that are blank up to the next one. -/
def quotedBreaks (began : Mark) : Nat → Text → Cursor → Except Error (Text × Cursor)
  | 0, breaks, c => .ok (breaks, c)
  | fuel + 1, breaks, c =>
      if c.atSeparator then c.fail .quotedScalar began .documentSeparator
      else
        match (c.skipWhile isSpaceOrTab).lineBreak with
        | ([], c) => .ok (breaks, c)
        | (b, c) => quotedBreaks began fuel (breaks ++ b) c

/-- Reads an escape after its backslash. A line break after it stands for nothing, and blank lines
after that stay. -/
def readEscape (began : Mark) (c : Cursor) : Except Error (Text × Cursor) :=
  match escaped? c.next with
  | some ch => .ok ([ch], c.step)
  | none =>
      match escapeDigits? c.next with
      | some n =>
          let c := c.step
          match nonHex? c n with
          | some ch => c.fail .doubleQuoted began (.expected (.escape n) [ch])
          | none => do
              let ch ← characterNumbered (hexNumber (c.rest.take n))
              return ([ch], c.advance n)
      | none =>
          if isBreak c.next then
            let c := c.lineBreak.2
            quotedBreaks began (c.rest.length + 1) [] c
          else c.fail .doubleQuoted began (.unknownEscape c.next)

/-- Reads what stands between spaces, after the characters in `read`, latest first. Two apostrophes
in a row are one in a scalar between apostrophes. -/
def readQuotedWord (double : Bool) (began : Mark) :
    Nat → Text → Cursor → Except Error (Text × Cursor)
  | 0, read, c => .ok (read.reverse, c)
  | fuel + 1, read, c =>
      let ch := c.next
      if isGap ch then .ok (read.reverse, c)
      else if ch = 0x27 then
        if double then readQuotedWord double began fuel (ch :: read) c.step
        else if c.peek 1 = 0x27 then readQuotedWord double began fuel (ch :: read) (c.advance 2)
        else .ok (read.reverse, c)
      else if ch = 0x22 ∧ double then .ok (read.reverse, c)
      else if ch = 0x5C ∧ double then do
        let (characters, c) ← readEscape began c.step
        readQuotedWord double began fuel (characters.reverse ++ read) c
      else readQuotedWord double began fuel (ch :: read) c.step

/-- Reads the spaces or line breaks between words. -/
def readQuotedGap (began : Mark) (c : Cursor) : Except Error (Text × Cursor) := do
  let (spaces, c) := c.takeWhile isSpaceOrTab
  if c.next = 0 then c.fail .quotedScalar began .endOfStream
  else
    match c.lineBreak with
    | ([], c) => return (spaces, c)
    | (first, c) =>
        let (breaks, c) ← quotedBreaks began (c.rest.length + 1) [] c
        return (folded first breaks, c)

/-- Reads up to the closing mark, in alternation words and what is between them. -/
def readQuotedWords (double : Bool) (quote : CodePoint) (began : Mark) :
    Nat → Text → Cursor → Except Error (Text × Cursor)
  | 0, _, c => c.fail .quotedScalar began .endOfStream
  | fuel + 1, read, c => do
      if c.next = quote then return (read, c.step)
      let (gap, c) ← readQuotedGap began c
      let (word, c) ← readQuotedWord double began (c.rest.length + 1) [] c
      readQuotedWords double quote began fuel (read ++ gap ++ word) c

/-- Reads a quoted scalar at its opening mark. -/
def readQuoted (double : Bool) (c : Cursor) : Except Error (Text × Cursor) := do
  let began := c.mark
  let quote := c.next
  let c := c.step
  let (word, c) ← readQuotedWord double began (c.rest.length + 1) [] c
  readQuotedWords double quote began (c.rest.length + 1) word c

/-! ## Block scalars -/

/-- What happens to the line breaks at the end of a block scalar. -/
inductive Chomping where
  | strip
  | clip
  | keep
  deriving DecidableEq, Repr

/-- The header of a block scalar; without an indentation the first line decides. -/
structure BlockHeader where
  chomping : Chomping
  indentation : Option Nat
  deriving DecidableEq, Repr

def chomping? (c : CodePoint) : Option Chomping :=
  if c = 0x2B then some .keep else if c = 0x2D then some .strip else none

/-- Takes the mark of the chomping if one stands here. -/
def readChomping (c : Cursor) : Option Chomping × Cursor :=
  match chomping? c.next with
  | some chomping => (some chomping, c.step)
  | none => (none, c)

/-- Takes the digit of the indentation if one stands here. -/
def readIndentation (began : Mark) (c : Cursor) : Except Error (Option Nat × Cursor) :=
  if !isAsciiDigit c.next then .ok (none, c)
  else if c.next = 0x30 then c.fail .blockScalar began .zeroIndentation
  else .ok (some (c.next - 0x30), c.step)

/-- Reads the marks of chomping and indentation, in either order. -/
def readBlockHeader (began : Mark) (c : Cursor) : Except Error (BlockHeader × Cursor) := do
  let (before, c) := readChomping c
  let (indentation, c) ← readIndentation began c
  let (after, c) := if before.isNone ∧ indentation.isSome then readChomping c else (none, c)
  if isSpaceOrEnd c.next then return (⟨(before.or after).getD .clip, indentation⟩, c)
  else c.unexpected .blockScalar began .blockIndicators

/-- Takes blank lines, and tells the largest column that spaces reach. -/
def blockIndentation : Nat → Text → Nat → Mark → Cursor → Text × Nat × Mark × Cursor
  | 0, breaks, widest, stop, c => (breaks, widest, stop, c)
  | fuel + 1, breaks, widest, stop, c =>
      if c.next = space then
        let c := c.step
        blockIndentation fuel breaks (max widest c.column) stop c
      else
        match c.lineBreak with
        | ([], c) => (breaks, widest, stop, c)
        | (b, c) => blockIndentation fuel (breaks ++ b) widest c.mark c

/-- Skips spaces up to a column. -/
def skipIndent (indent : Nat) (c : Cursor) : Cursor :=
  let spaces := (c.rest.takeWhile (· == space)).length
  c.advance (min spaces (indent - c.column))

/-- Takes blank lines, and the indentation after each. -/
def blockBreaks (indent : Nat) : Nat → Text → Mark → Cursor → Text × Mark × Cursor
  | 0, breaks, stop, c => (breaks, stop, c)
  | fuel + 1, breaks, stop, c =>
      match c.lineBreak with
      | ([], c) => (breaks, stop, c)
      | (b, c) => blockBreaks indent fuel (breaks ++ b) c.mark (skipIndent indent c)

def readBlockBreaks (indent : Nat) (c : Cursor) : Text × Mark × Cursor :=
  blockBreaks indent (c.rest.length + 1) [] c.mark (skipIndent indent c)

/-- Reads the lines of a block scalar from one that is indented on. `breaks` are those before it.
In a folded scalar a break between two lines that do not start with a blank is folded. -/
def readBlockLines (fold : Bool) (chomping : Chomping) (indent : Nat) :
    Nat → (read breaks : Text) → (stop : Mark) → Cursor → Text × Mark × Cursor
  | 0, read, _, stop, c => (read, stop, c)
  | fuel + 1, read, breaks, _, c =>
      let flush := !isSpaceOrTab c.next
      let (line, c) := c.takeWhile fun ch => !isBreak ch
      let read := read ++ breaks ++ line
      let (ending, c) := c.lineBreak
      let (breaks, stop, c) := readBlockBreaks indent c
      if c.column = indent ∧ c.next ≠ 0 then
        let joint :=
          if fold && ending == [lineFeed] && flush && !isSpaceOrTab c.next then
            if breaks.isEmpty then [space] else []
          else ending
        readBlockLines fold chomping indent fuel (read ++ joint) breaks stop c
      else
        match chomping with
        | .strip => (read, stop, c)
        | .clip => (read ++ ending, stop, c)
        | .keep => (read ++ ending ++ breaks, stop, c)

/-- Reads a block scalar at its mark, inside a block of some indentation. -/
def readBlock (fold : Bool) (outer : Int) (c : Cursor) : Except Error (Text × Mark × Cursor) := do
  let began := c.mark
  let (header, c) ← readBlockHeader began c.step
  let c ← c.skipLine .blockScalar began
  let least := max 1 (outer + 1).toNat
  let (indent, breaks, stop, c) :=
    match header.indentation with
    | none =>
        let (breaks, widest, stop, c) := blockIndentation (c.rest.length + 1) [] 0 c.mark c
        (max least widest, breaks, stop, c)
    | some n =>
        let indent := least + n - 1
        let (breaks, stop, c) := readBlockBreaks indent c
        (indent, breaks, stop, c)
  if c.column = indent ∧ c.next ≠ 0 then
    return readBlockLines fold header.chomping indent (c.rest.length + 1) [] breaks stop c
  else
    return (if header.chomping = .keep then breaks else [], stop, c)

end UrlRules.Yaml
