import UrlRules.Console.Emoji

/-!
# Markup

Text for the console may hold tags in brackets. An opening tag starts a style, and a closing tag ends the
latest style of its name, or the latest of all if it names none. A backslash before a tag takes its
meaning away, and doubled backslashes before a tag stand for single ones. What is shown is the text
without its tags and without control characters, and with pictures for their names.
-/
namespace UrlRules

open Text

namespace Markup

inductive Error where
  /-- A closing tag names a style that is not open. -/
  | notOpen (name : Text)
  | nothingToClose
  deriving DecidableEq, Repr

def Error.message : Error → Text
  | .notOpen name => Text.of "closing tag '[" ++ name ++ Text.of "]' doesn't match any open tag"
  | .nothingToClose => "closing tag '[/]' has nothing to close"

def openBracket : CodePoint := 0x5B
def closeBracket : CodePoint := 0x5D
def backslash : CodePoint := 0x5C
def slash : CodePoint := 0x2F

def startsTag (c : CodePoint) : Bool := isAsciiLower c || c == 0x23 || c == slash || c == 0x40

/-- What stands between the brackets of a tag at the start of a text. -/
def tagAtStart? : Text → Option Text
  | b :: c :: s =>
      if b = openBracket ∧ startsTag c then
        let name := s.takeWhile fun d => d != openBracket && d != closeBracket
        if (s.drop name.length).head? = some closeBracket then some (c :: name) else none
      else none
  | _ => none

/-- A run of backslashes with a tag after it, at the start of a text: their number and the tag. -/
def markedTag? (s : Text) : Option (Nat × Text) :=
  let count := (s.takeWhile (· == backslash)).length
  (tagAtStart? (s.drop count)).map fun tag => (count, tag)

def bracketed (tag : Text) : Text := openBracket :: tag ++ [closeBracket]

/-- The number of characters of backslashes and a tag. -/
def width (count : Nat) (tag : Text) : Nat := count + tag.length + 2

/-! ## Escaping -/

/-- Takes the meaning away from all tags. -/
def escapeTags : Text → Text
  | [] => []
  | c :: s =>
      match markedTag? (c :: s) with
      | some (count, tag) =>
          List.replicate (2 * count + 1) backslash ++ bracketed tag ++
            escapeTags ((c :: s).drop (width count tag))
      | none => c :: escapeTags s
  termination_by s => s.length
  decreasing_by
    · simp only [width, List.length_drop, List.length_cons]
      omega
    · simp

/-- A text as markup that shows it. -/
def escape (s : Text) : Text :=
  let escaped := escapeTags s
  if endsWith escaped [backslash] && !endsWith escaped [backslash, backslash] then
    escaped ++ [backslash]
  else escaped

/-! ## Rendering -/

inductive Piece where
  | text (s : Text)
  | tag (name : Text)
  deriving DecidableEq, Repr

/-- The piece of the characters gathered so far, latest first. -/
def gathered (s : Text) : List Piece := if s.isEmpty then [] else [.text s.reverse]

/-- What backslashes and a tag after them stand for. -/
def markedPieces (count : Nat) (tag : Text) : List Piece :=
  (if 2 ≤ count then [.text (List.replicate (count / 2) backslash)] else []) ++
    (if count % 2 = 1 then [.text (bracketed tag)] else [.tag tag])

/-- The pieces of a text after the characters gathered so far. -/
def piecesAfter (before : Text) : Text → List Piece
  | [] => gathered before
  | c :: s =>
      match markedTag? (c :: s) with
      | some (count, tag) =>
          gathered before ++ markedPieces count tag ++
            piecesAfter [] ((c :: s).drop (width count tag))
      | none => piecesAfter (c :: before) s
  termination_by s => s.length
  decreasing_by
    · simp only [width, List.length_drop, List.length_cons]
      omega
    · simp

/-- A backslash before a bracket is not shown. -/
def unescapeBrackets : Text → Text
  | [] => []
  | [c] => [c]
  | c :: d :: s =>
      if c = backslash ∧ d = openBracket then openBracket :: unescapeBrackets s
      else c :: unescapeBrackets (d :: s)

/-- Short names of styles. -/
def shortStyles : List (Text × Text) := [
  ("b", "bold"), ("d", "dim"), ("i", "italic"), ("u", "underline"), ("uu", "underline2"),
  ("r", "reverse"), ("c", "conceal"), ("s", "strike"), ("o", "overline")]

def styleName (s : Text) : Text :=
  let name := lower (strip s)
  (List.lookup name shortStyles).getD name

/-- The open styles, latest first, after a tag. -/
def afterTag (styles : List Text) (tag : Text) : Except Error (List Text) :=
  match (cut 0x3D tag).1 with
  | 0x2F :: name =>
      if (strip name).isEmpty then
        match styles with
        | [] => .error .nothingToClose
        | _ :: styles => .ok styles
      else if styles.contains (styleName name) then .ok (styles.erase (styleName name))
      else .error (.notOpen tag)
  | name => .ok (styleName name :: styles)

/-- What pieces show while styles are open. -/
def shown (styles : List Text) : List Piece → Except Error Text
  | [] => .ok []
  | .text s :: pieces => do return Emoji.replaceNames (unescapeBrackets s) ++ (← shown styles pieces)
  | .tag name :: pieces => do
      let styles ← afterTag styles name
      shown styles pieces

/-- Control characters that a console would act on. -/
def isControl (c : CodePoint) : Bool := [0x07, 0x08, 0x0B, 0x0C, 0x0D].contains c

/-- The text that markup shows. -/
def render (s : Text) : Except Error Text :=
  if s.contains openBracket then do
    return (← shown [] (piecesAfter [] s)).filter (!isControl ·)
  else .ok ((Emoji.replaceNames s).filter (!isControl ·))

end Markup
end UrlRules
