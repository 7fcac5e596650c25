import UrlRules.Yaml.Property
import UrlRules.Yaml.Scalar

/-!
# From text to tokens

Blocks are marked by indentation: a line that is indented further than its block opens a new one, and
one that is indented less closes all deeper ones. A key without a mark is only known to be one at its
colon. Until then its tokens wait, and at the colon the marks of the key, and of the block mapping
that it may open, are put before them. Such a key stands on one line and has at most 1024 characters.

`tokens` gives the tokens of a text up to the first fault, and that fault.
-/
namespace UrlRules.Yaml

open Text

/-- A place where a key may begin: the number of its first token, whether a key has to be here, and
the place. -/
structure KeyCandidate where
  number : Nat
  required : Bool
  index : Nat
  mark : Mark
  deriving DecidableEq, Repr

/-- The tokens that wait are in `queue`, and `given` is the number of those before them. There is one
candidate for a key for each depth of brackets. -/
structure Scan where
  cursor : Cursor
  flow : Nat
  indent : Int
  outer : List Int
  keyAllowed : Bool
  candidates : List (Nat × KeyCandidate)
  queue : List Lexeme
  given : Nat
  finished : Bool
  deriving Repr

namespace Scan

def start (s : Text) : Scan := ⟨Cursor.start s, 0, -1, [], true, [], [], 0, false⟩

/-- An error here without a context. -/
def refuse {α : Type} (s : Scan) (cause : Cause) : Except Error α :=
  .error (.malformed none cause s.cursor.mark)

def emit (s : Scan) (lexeme : Lexeme) : Scan := { s with queue := s.queue ++ [lexeme] }

/-- Adds a token that takes no characters. -/
def emitMark (s : Scan) (token : Token) : Scan := s.emit ⟨token, s.cursor.mark, s.cursor.mark⟩

/-- Adds a token of some characters and passes them. -/
def emitWidth (s : Scan) (token : Token) (width : Nat) : Scan :=
  let after := s.cursor.advance width
  { s.emit ⟨token, s.cursor.mark, after.mark⟩ with cursor := after }

/-! ## Candidates for keys -/

/-- A key that has to be here and is none is an error. -/
def drop (s : Scan) (level : Nat) (key : KeyCandidate) : Except Error Scan :=
  if key.required then s.cursor.fail .simpleKey key.mark .missingColon
  else .ok { s with candidates := s.candidates.filter (·.1 != level) }

/-- Drops the candidate at the present depth. -/
def dropCandidate (s : Scan) : Except Error Scan :=
  match s.candidates.lookup s.flow with
  | none => .ok s
  | some key => s.drop s.flow key

/-- Drops the candidates that cannot be keys any more. -/
def dropStale (s : Scan) : Except Error Scan :=
  s.candidates.foldlM (fun s (level, key) =>
    if key.mark.line ≠ s.cursor.line ∨ 1024 < s.cursor.index - key.index then s.drop level key
    else .ok s) s

/-- Notes that the next token may begin a key. -/
def noteCandidate (s : Scan) : Except Error Scan :=
  if !s.keyAllowed then .ok s
  else do
    let s ← s.dropCandidate
    let key : KeyCandidate :=
      { number := s.given + s.queue.length
        required := s.flow = 0 ∧ s.indent = s.cursor.column
        index := s.cursor.index
        mark := s.cursor.mark }
    return { s with candidates := (s.flow, key) :: s.candidates }

/-- The number of the first token that waits for its colon. -/
def firstCandidate? (s : Scan) : Option Nat := (s.candidates.map (·.2.number)).min?

/-! ## Indentation -/

/-- How many blocks are indented more than a column, and the indentation that remains. -/
def closing (column : Int) : Int → List Int → Nat × Int × List Int
  | indent, [] => (0, indent, [])
  | indent, o :: outer =>
      if column < indent then
        let (count, rest) := closing column o outer
        (count + 1, rest)
      else (0, indent, o :: outer)

/-- Closes the blocks that are indented more than a column. Inside brackets indentation has no
meaning. -/
def unwind (s : Scan) (column : Int) : Scan :=
  if s.flow ≠ 0 then s
  else
    let (count, indent, outer) := closing column s.indent s.outer
    let ends := List.replicate count (Lexeme.mk .blockEnd s.cursor.mark s.cursor.mark)
    { s with queue := s.queue ++ ends, indent, outer }

/-- Opens a block at a column that is indented further, and tells whether it did. -/
def indentTo (s : Scan) (column : Int) : Bool × Scan :=
  if s.indent < column then (true, { s with indent := column, outer := s.indent :: s.outer })
  else (false, s)

/-- Opens a block here if the line is indented further. -/
def openBlock (s : Scan) (token : Token) : Scan :=
  match s.indentTo s.cursor.column with
  | (true, s) => s.emitMark token
  | (false, s) => s

/-! ## Between tokens -/

/-- Skips spaces, comments and line breaks. Outside brackets a key may follow a line break. -/
def skipGaps : Nat → Scan → Scan
  | 0, s => s
  | fuel + 1, s =>
      match s.cursor.skipSpaces.skipComment.lineBreak with
      | ([], c) => { s with cursor := c }
      | (_, c) => skipGaps fuel { s with cursor := c, keyAllowed := s.keyAllowed || s.flow == 0 }

/-- Goes to the next token. A byte order mark may start the text. -/
def toNext (s : Scan) : Scan :=
  let c := s.cursor
  let c := if c.index = 0 ∧ c.next = 0xFEFF then c.step else c
  skipGaps (c.rest.length + 1) { s with cursor := c }

/-! ## Tokens -/

def takeStreamEnd (s : Scan) : Except Error Scan := do
  let s ← (s.unwind (-1)).dropCandidate
  return { s.emitMark .streamEnd with keyAllowed := false, candidates := [], finished := true }

def takeDirective (s : Scan) : Except Error Scan := do
  let s ← (s.unwind (-1)).dropCandidate
  let (lexeme, c) ← readDirective s.cursor
  return { s.emit lexeme with keyAllowed := false, cursor := c }

def takeSeparator (s : Scan) (token : Token) : Except Error Scan := do
  let s ← (s.unwind (-1)).dropCandidate
  return { s.emitWidth token 3 with keyAllowed := false }

def takeFlowStart (s : Scan) (token : Token) : Except Error Scan := do
  let s ← s.noteCandidate
  return { s.emitWidth token 1 with flow := s.flow + 1, keyAllowed := true }

def takeFlowEnd (s : Scan) (token : Token) : Except Error Scan := do
  let s ← s.dropCandidate
  return { s.emitWidth token 1 with flow := s.flow - 1, keyAllowed := false }

def takeFlowEntry (s : Scan) : Except Error Scan := do
  let s ← s.dropCandidate
  return { s.emitWidth .flowEntry 1 with keyAllowed := true }

def takeBlockEntry (s : Scan) : Except Error Scan := do
  if s.flow = 0 ∧ !s.keyAllowed then s.refuse .sequenceNotAllowed
  else
    let s := if s.flow = 0 then s.openBlock .blockSequenceStart else s
    let s ← s.dropCandidate
    return { s.emitWidth .blockEntry 1 with keyAllowed := true }

def takeKey (s : Scan) : Except Error Scan := do
  if s.flow = 0 ∧ !s.keyAllowed then s.refuse .keyNotAllowed
  else
    let s := if s.flow = 0 then s.openBlock .blockMappingStart else s
    let s ← s.dropCandidate
    return { s.emitWidth .key 1 with keyAllowed := s.flow == 0 }

/-- Puts tokens before the one with a number. -/
def insertBefore (s : Scan) (number : Nat) (tokens : List Lexeme) : Scan :=
  let before := number - s.given
  { s with queue := s.queue.take before ++ tokens ++ s.queue.drop before }

/-- A colon: of the candidate at the present depth, or of a key that was marked or is absent. -/
def takeValue (s : Scan) : Except Error Scan := do
  match s.candidates.lookup s.flow with
  | some key =>
      let s := { s with candidates := s.candidates.filter (·.1 != s.flow) }
      let (opens, s) := if s.flow = 0 then s.indentTo key.mark.column else (false, s)
      let block := if opens then [Lexeme.mk .blockMappingStart key.mark key.mark] else []
      let s := s.insertBefore key.number (block ++ [⟨.key, key.mark, key.mark⟩])
      return { s.emitWidth .value 1 with keyAllowed := false }
  | none =>
      if s.flow = 0 ∧ !s.keyAllowed then s.refuse .valueNotAllowed
      else
        let s := if s.flow = 0 then s.openBlock .blockMappingStart else s
        let s ← s.dropCandidate
        return { s.emitWidth .value 1 with keyAllowed := s.flow == 0 }

/-- A token of its own kind that may begin a key. -/
def takeNamed (s : Scan) (read : Cursor → Except Error (Token × Cursor)) : Except Error Scan := do
  let s ← s.noteCandidate
  let (token, c) ← read s.cursor
  return { s.emit ⟨token, s.cursor.mark, c.mark⟩ with keyAllowed := false, cursor := c }

def takeBlockScalar (s : Scan) (fold : Bool) : Except Error Scan := do
  let s ← s.dropCandidate
  let (text, stop, c) ← readBlock fold s.indent s.cursor
  return { s.emit ⟨.scalar text false, s.cursor.mark, stop⟩ with keyAllowed := true, cursor := c }

def takePlain (s : Scan) : Except Error Scan := do
  let s ← s.noteCandidate
  let plain := readPlain (s.flow != 0) s.indent s.cursor
  let lexeme := Lexeme.mk (.scalar plain.text true) s.cursor.mark plain.stop
  return { s.emit lexeme with keyAllowed := plain.crossed, cursor := plain.rest }

/-- The characters that cannot begin a plain scalar, or only before another character. -/
def isIndicator (c : CodePoint) : Bool := (Text.of "-?:,[]\x7b\x7d#&*!|>'\"%@`").contains c

/-- Whether a plain scalar begins here. -/
def startsPlain (s : Scan) : Bool :=
  let c := s.cursor.next
  !(isGap c || isIndicator c) ||
    (!isGap (s.cursor.peek 1) && (c == 0x2D || (s.flow == 0 && (c == 0x3F || c == 0x3A))))

/-- Takes the token that begins with the next character. -/
def take (s : Scan) : Except Error Scan :=
  let ch := s.cursor.next
  let lineStart := s.cursor.column = 0
  let beforeGap := isGap (s.cursor.peek 1)
  let outside := s.flow = 0
  if ch = 0 then s.takeStreamEnd
  else if ch = 0x25 ∧ lineStart then s.takeDirective
  else if lineStart ∧ s.cursor.atTriple 0x2D then s.takeSeparator .documentStart
  else if lineStart ∧ s.cursor.atTriple 0x2E then s.takeSeparator .documentEnd
  else if ch = 0x5B then s.takeFlowStart .flowSequenceStart
  else if ch = 0x7B then s.takeFlowStart .flowMappingStart
  else if ch = 0x5D then s.takeFlowEnd .flowSequenceEnd
  else if ch = 0x7D then s.takeFlowEnd .flowMappingEnd
  else if ch = 0x2C then s.takeFlowEntry
  else if ch = 0x2D ∧ beforeGap then s.takeBlockEntry
  else if ch = 0x3F ∧ (!outside ∨ beforeGap) then s.takeKey
  else if ch = 0x3A ∧ (!outside ∨ beforeGap) then s.takeValue
  else if ch = 0x2A then
    s.takeNamed fun c => do
      let (name, rest) ← readName .alias c.mark c.step
      return (.alias name, rest)
  else if ch = 0x26 then
    s.takeNamed fun c => do
      let (name, rest) ← readName .anchor c.mark c.step
      return (.anchor name, rest)
  else if ch = 0x21 then
    s.takeNamed fun c => do
      let (name, rest) ← readTag c
      return (.tag name, rest)
  else if ch = 0x7C ∧ outside then s.takeBlockScalar false
  else if ch = 0x3E ∧ outside then s.takeBlockScalar true
  else if ch = 0x27 ∨ ch = 0x22 then
    s.takeNamed fun c => do
      let (text, rest) ← readQuoted (ch = 0x22) c
      return (.scalar text false, rest)
  else if s.startsPlain then s.takePlain
  else .error (.malformed (some (.nextToken, none)) (.cannotStart ch) s.cursor.mark)

/-- Goes to the next token and takes it. -/
def fetch (s : Scan) : Except Error Scan := do
  let s ← s.toNext.dropStale
  let s ← (s.unwind s.cursor.column).take
  s.dropStale

/-- How many tokens of the queue do not wait for a colon. -/
def ready (s : Scan) : Nat :=
  match s.firstCandidate? with
  | none => s.queue.length
  | some n => if s.finished then s.queue.length else min (n - s.given) s.queue.length

end Scan

/-- The tokens of a text, and the fault where they break off. -/
structure Tokens where
  lexemes : List Lexeme
  fault : Option Error
  deriving Repr

/-- The tokens from a state of the scan on. Each takes at least one character. -/
def tokensFrom : Nat → Scan → Tokens
  | 0, _ => ⟨[], none⟩
  | fuel + 1, s =>
      match s.fetch with
      | .error e => ⟨[], some e⟩
      | .ok s =>
          let n := s.ready
          let out := s.queue.take n
          if s.finished then ⟨out, none⟩
          else
            let more := tokensFrom fuel { s with queue := s.queue.drop n, given := s.given + n }
            ⟨out ++ more.lexemes, more.fault⟩

def tokens (s : Text) : Tokens := tokensFrom (s.length + 2) (Scan.start s)

end UrlRules.Yaml
