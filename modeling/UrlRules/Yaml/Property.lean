import UrlRules.Text.Utf8
import UrlRules.Yaml.Cursor
import UrlRules.Yaml.Token

/-!
# Names in a document

Anchors, aliases, tags, and the directives before a document.
-/
namespace UrlRules.Yaml

open Text

def isNameCharacter (c : CodePoint) : Bool :=
  isAsciiLetter c || isAsciiDigit c || c == 0x2D || c == 0x5F

/-- The characters that a name may end before, other than gaps. -/
def endsName (c : CodePoint) : Bool := isGap c || (Text.of "?:,]\x7d%@`").contains c

/-- Reads the name of an anchor or an alias after its mark. -/
def readName (context : Context) (began : Mark) (c : Cursor) : Except Error (Text × Cursor) :=
  let (name, c) := c.takeWhile isNameCharacter
  if name.isEmpty || !endsName c.next then c.unexpected context began .nameCharacter
  else .ok (name, c)

/-! ## Tags -/

def isUriCharacter (c : CodePoint) : Bool :=
  isAsciiLetter c || isAsciiDigit c || (Text.of "-;/?:@&=+$,_.!~*'()[]%").contains c

/-- Reads octets written as a percent sign and two digits, as many as there are. -/
def readUriOctets (context : Context) (began : Mark) :
    Nat → List Utf8.Octet → Cursor → Except Error (List Utf8.Octet × Cursor)
  | 0, octets, c => .ok (octets, c)
  | fuel + 1, octets, c =>
      if c.next ≠ 0x25 then .ok (octets, c)
      else
        let c := c.step
        match hexValue? (c.peek 0), hexValue? (c.peek 1) with
        | some high, some low =>
            readUriOctets context began fuel (octets ++ [high * 16 + low]) (c.advance 2)
        | none, _ => c.fail context began (.expected .uriEscape [c.peek 0])
        | some _, none => c.fail context began (.expected .uriEscape [c.peek 1])

/-- Reads the characters of a URI as far as they go, after those in `read`. -/
def readUriCharacters (context : Context) (began : Mark) :
    Nat → Text → Cursor → Except Error (Text × Cursor)
  | 0, read, c => .ok (read, c)
  | fuel + 1, read, c =>
      let (plain, c) := c.takeWhile fun ch => isUriCharacter ch && ch != 0x25
      let read := read ++ plain
      if c.next ≠ 0x25 then .ok (read, c)
      else do
        let (octets, after) ← readUriOctets context began (c.rest.length + 1) [] c
        match Utf8.decode? octets with
        | none => c.fail context began (.undecodable octets)
        | some characters => readUriCharacters context began fuel (read ++ characters) after

/-- Reads a URI, which is not empty. Its absence and its faults are told in two ways. -/
def readUri (absent faulty : Context) (began : Mark) (c : Cursor) :
    Except Error (Text × Cursor) := do
  if !isUriCharacter c.next then c.unexpected absent began .uri
  else readUriCharacters faulty began (c.rest.length + 1) [] c

/-- Reads a handle: one exclamation mark, or a name between two. -/
def readHandle (context : Context) (began : Mark) (c : Cursor) : Except Error (Text × Cursor) :=
  if c.next ≠ 0x21 then c.unexpected context began .exclamation
  else
    let after := c.step
    if after.next = space then .ok ([0x21], after)
    else
      let (name, after) := after.takeWhile isNameCharacter
      if after.next ≠ 0x21 then after.unexpected context began .exclamation
      else .ok (0x21 :: name ++ [0x21], after.step)

/-- Reads a tag: complete between angle brackets, a lone exclamation mark, or a handle and what
follows it. The handle is a single mark unless a second one comes before the next space. -/
def readTag (c : Cursor) : Except Error (TagName × Cursor) := do
  let began := c.mark
  let next := c.peek 1
  let (name, c) ←
    if next = 0x3C then do
      let (uri, c) ← readUri .tagPart .tag began (c.advance 2)
      if c.next ≠ 0x3E then c.unexpected .tagPart began .tagEnd
      else pure (⟨none, uri⟩, c.step)
    else if isGap next then pure (⟨none, [0x21]⟩, c.step)
    else do
      let word := c.rest.tail.takeWhile fun ch => !isSpaceOrEnd ch
      let (handle, c) ← if word.contains 0x21 then readHandle .tag began c else pure ([0x21], c.step)
      let (uri, c) ← readUri .tagPart .tag began c
      pure (TagName.mk (some handle) uri, c)
  if isSpaceOrEnd c.next then return (name, c) else c.unexpected .tag began .space

/-! ## Directives -/

/-- Reads digits, at least one. -/
def readDigits (began : Mark) (c : Cursor) : Except Error (Nat × Cursor) :=
  if !isAsciiDigit c.next then c.unexpected .directive began .digit
  else
    let (digits, c) := c.takeWhile isAsciiDigit
    .ok (digitsValue 10 (digits.map (· - 0x30)), c)

/-- Reads a version: two numbers with a point between them. -/
def readVersion (began : Mark) (c : Cursor) : Except Error (Directive × Cursor) := do
  let (major, c) ← readDigits began c.skipSpaces
  if c.next ≠ 0x2E then c.unexpected .directive began .digitOrPoint
  else
    let (minor, c) ← readDigits began c.step
    if isSpaceOrEnd c.next then return (.version major minor, c)
    else c.unexpected .directive began .digitOrSpace

/-- Reads a handle and the text that it stands for. -/
def readHandleDirective (began : Mark) (c : Cursor) : Except Error (Directive × Cursor) := do
  let (handle, c) ← readHandle .directive began c.skipSpaces
  if c.next ≠ space then c.unexpected .directive began .space
  else
    let (lead, c) ← readUri .directivePart .directive began c.skipSpaces
    if isSpaceOrEnd c.next then return (.handle handle lead, c)
    else c.unexpected .directive began .space

/-- Reads a directive with its line. Directives of other names are skipped. -/
def readDirective (c : Cursor) : Except Error (Lexeme × Cursor) := do
  let began := c.mark
  let (name, c) := c.step.takeWhile isNameCharacter
  if name.isEmpty || !isSpaceOrEnd c.next then c.unexpected .directive began .nameCharacter
  else
    let (directive, stop, c) ←
      if name = Text.of "YAML" then do
        let (d, c) ← readVersion began c
        pure (d, c.mark, c)
      else if name = Text.of "TAG" then do
        let (d, c) ← readHandleDirective began c
        pure (d, c.mark, c)
      else pure (Directive.other, c.mark, c.skipWhile fun ch => !isBreak ch)
    return (⟨.directive directive, began, stop⟩, ← c.skipLine .directive began)

end UrlRules.Yaml
