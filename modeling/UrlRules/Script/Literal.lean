import UrlRules.Script.Token
import UrlRules.Text.Word

/-!
# Declared literals

A script declares a literal with `const`, `let` or `var`, a name and an equals sign. The literal is
built from objects, arrays, texts, numbers, regex literals and four words, and nothing else; it is
read and never run. After it only the end of the statement may come.

Values may be nested to any depth. Where recursion has a limit, as it does for a usual interpreter,
about five hundred arrays in each other are too many, and the reader gives up; this limit is left out.
-/
namespace UrlRules.Script

open Text

/-- The value of a word. -/
def word? (word : Text) : Option Json :=
  if word = Text.of "true" then some (.bool true)
  else if word = Text.of "false" then some (.bool false)
  else if word = Text.of "null" then some .null
  else if word = Text.of "undefined" then some .null
  else none

/-- Reads a value that is no list and no object. -/
def readScalar (s : Text) : Except Failure (Json × Text) :=
  match s with
  | [] => failAt .endOfInput s
  | c :: rest =>
      if c = apostrophe ∨ c = quotationMark ∨ c = backtick then do
        let (t, rest) ← readText c rest
        return (.text t, rest)
      else if c = 0x2F then do
        let (t, rest) ← readRegex s
        return (.text t, rest)
      else
        let number := numberLength s
        if number ≠ 0 then do return (← numberOf (s.take number), s.drop number)
        else
          let name := identifier s
          match word? name with
          | some value => .ok (value, s.drop name.length)
          | none => failAt .unsupportedExpression s

/-- Reads the key of a field: a text, an identifier, or a number, which stands for its own text. -/
def readKey (s : Text) : Except Failure (Text × Text) :=
  match s with
  | [] => failAt .unsupportedKey s
  | c :: rest =>
      if c = apostrophe ∨ c = quotationMark then readText c rest
      else
        let name := identifier s
        let size := if name.isEmpty then numberLength s else name.length
        if size = 0 then failAt .unsupportedKey s else .ok (s.take size, s.drop size)

/-- Takes a character after blanks. -/
def expect (c : CodePoint) (s : Text) : Except Failure Text := do
  match ← skip s with
  | [] => failAt (.expected c none) []
  | d :: rest => if d = c then .ok rest else failAt (.expected c (some d)) (d :: rest)

mutual

/-- Reads a value after blanks. -/
def readValue : Nat → Text → Except Failure (Json × Text)
  | 0, s => failAt .endOfInput s
  | fuel + 1, s => do
      match ← skip s with
      | 0x7B :: rest => readFields fuel [] rest
      | 0x5B :: rest => readItems fuel [] rest
      | s => readScalar s

/-- Reads the fields of an object up to its end, after those in `read`, latest first. -/
def readFields : Nat → List (Text × Json) → Text → Except Failure (Json × Text)
  | 0, _, s => failAt .unsupportedKey s
  | fuel + 1, read, s => do
      match ← skip s with
      | 0x7D :: rest => return (.object (Json.ofWrites read.reverse), rest)
      | s =>
          let (key, rest) ← readKey s
          let rest ← expect 0x3A rest
          let (value, rest) ← readValue fuel rest
          let read := (key, value) :: read
          match ← skip rest with
          | 0x2C :: rest => readFields fuel read rest
          | 0x7D :: rest => return (.object (Json.ofWrites read.reverse), rest)
          | rest => failAt .expectedInObject rest

/-- Reads the items of an array up to its end, after those in `read`, latest first. -/
def readItems : Nat → List Json → Text → Except Failure (Json × Text)
  | 0, _, s => failAt .endOfInput s
  | fuel + 1, read, s => do
      match ← skip s with
      | 0x5D :: rest => return (.list read.reverse, rest)
      | 0x2C :: rest => failAt .arrayHole (0x2C :: rest)
      | s =>
          let (value, rest) ← readValue fuel s
          let read := value :: read
          match ← skip rest with
          | 0x2C :: rest => readItems fuel read rest
          | 0x5D :: rest => return (.list read.reverse, rest)
          | rest => failAt .expectedInArray rest

end

/-- Reads a value up to the end of its statement: a semicolon, a line end or the end of the text. -/
def readInitializer (s : Text) : Except Failure Json := do
  let (value, rest) ← readValue (2 * s.length + 2) s
  let after ← skip rest
  let passed := rest.take (rest.length - after.length)
  match after with
  | [] => return value
  | c :: _ =>
      if c = 0x3B ∨ passed.contains lineFeed then return value
      else failAt .trailingContent after

/-! ## Finding the declaration -/

def declarators : List Text := [Text.of "const", Text.of "let", Text.of "var"]

/-- The text after `name =` and blanks. -/
def afterName? (name s : Text) : Option Text := do
  match (← dropLead? name s).dropWhile isBlank with
  | 0x3D :: rest => some (rest.dropWhile isBlank)
  | _ => none

/-- The text after blanks and `name =`, where `gap` of the blanks at the start, or fewer, stand
before the name. There is at least one. -/
def afterGap? (name s : Text) : Nat → Option Text
  | 0 => none
  | gap + 1 => (afterName? name (s.drop (gap + 1))).or (afterGap? name s gap)

/-- The text after a declaration that starts here. -/
def declaration? (name s : Text) : Option Text :=
  declarators.findSome? fun declarator => do
    let rest ← dropLead? declarator s
    afterGap? name rest (rest.takeWhile isBlank).length

/-- The text after the first declaration of a name. It starts where no word goes on. -/
def findDeclaration? (name : Text) : Bool → Text → Option Text
  | _, [] => none
  | inWord, c :: rest =>
      match if inWord then none else declaration? name (c :: rest) with
      | some after => some after
      | none => findDeclaration? name (isWord c) rest

/-- The literal that a script declares under a name. -/
def declaredLiteral (text name : Text) : Except Error Json :=
  match findDeclaration? name false text with
  | none => .error (.notDeclared name)
  | some rest =>
      match readInitializer rest with
      | .ok value => .ok value
      | .error failure => .error (failure.toError text.length)

end UrlRules.Script
