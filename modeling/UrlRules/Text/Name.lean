import UrlRules.Text.Case
import UrlRules.Text.Name.Aliases
import UrlRules.Text.Name.Alphabets
import UrlRules.Text.Name.EastAsian
import UrlRules.Text.Name.Historic
import UrlRules.Text.Name.Pictures
import UrlRules.Text.Name.Symbols
import UrlRules.Text.Ranges

/-!
# Characters by name

Most names are in lists, in which each name belongs to the code point after that of the name before. A
word that starts with an at sign gives the next code point. A word that starts with a small letter starts
a name: the letter tells how many words are taken from the name before, none for an `a`.

Ideographs are named by their code points, and syllables of Hangul by their sounds.
-/
namespace UrlRules.Text

/-! ## Names in lists -/

/-- A search for a name: the name read last, the code point after it, and what was found before it. -/
structure NameSearch where
  words : List Text
  next : CodePoint
  found : Option CodePoint
  deriving DecidableEq, Repr

namespace NameSearch

def start : NameSearch := ⟨[], 0, none⟩

/-- The search once the name read last is complete. -/
def settle (target : List Text) (s : NameSearch) : NameSearch :=
  if s.words = target then { s with found := s.found.or (some (s.next - 1)) } else s

/-- Reads a word of a list. -/
def step (target : List Text) (s : NameSearch) (word : String) : NameSearch :=
  match word.toList with
  | [] => s
  | c :: rest =>
      if c = '@' then
        { s.settle target with next := digitsValue 16 (rest.filterMap fun d => hexValue? d.toNat) }
      else if c.isLower then
        let s := s.settle target
        let kept := s.words.take (c.toNat - 0x61)
        ⟨if rest.isEmpty then kept else kept ++ [rest.map Char.toNat], s.next + 1, s.found⟩
      else { s with words := s.words ++ [word.toList.map Char.toNat] }

end NameSearch

/-- The words of a list of names. -/
def wordsOf (names : String) : List String := (names.splitOn "\n").flatMap (·.splitOn " ")

def findName? (target : List Text) (names : String) : Option CodePoint :=
  (((wordsOf names).foldl (NameSearch.step target) .start).settle target).found

/-- All lists of names. -/
def nameLists : List String :=
  [alphabetNames, symbolNames, eastAsianNames, historicNames, pictureNames, aliasNames]

/-! ## Names by rule -/

def ideographRanges : List (CodePoint × CodePoint) := [
  (0x3400, 0x4DBF), (0x4E00, 0x9FFF), (0x20000, 0x2A6DF), (0x2A700, 0x2B738), (0x2B740, 0x2B81D),
  (0x2B820, 0x2CEA1), (0x2CEB0, 0x2EBE0), (0x30000, 0x3134A)]

/-- The ideograph with the code point that four or five digits write. -/
def ideograph? (digits : Text) : Option CodePoint :=
  if (digits.length = 4 ∨ digits.length = 5) ∧ digits.all fun c => isAsciiDigit c || isAsciiUpper c then
    match digits.mapM hexValue? with
    | none => none
    | some values =>
        let code := digitsValue 16 values
        if inRanges ideographRanges code then some code else none
  else none

def initialSounds : List String :=
  ["G", "GG", "N", "D", "DD", "R", "M", "B", "BB", "S", "SS", "", "J", "JJ", "C", "K", "T", "P", "H"]

def vowelSounds : List String :=
  ["A", "AE", "YA", "YAE", "EO", "E", "YEO", "YE", "O", "WA", "WAE", "OE", "YO", "U", "WEO", "WE", "WI",
    "YU", "EU", "YI", "I"]

def finalSounds : List String :=
  ["", "G", "GG", "GS", "N", "NJ", "NH", "D", "L", "LG", "LM", "LB", "LS", "LT", "LP", "LH", "M", "B",
    "BS", "S", "SS", "NG", "J", "C", "K", "T", "P", "H"]

/-- The sounds at the start of a text: the index of each, and what follows it. -/
def soundsAtStart (sounds : List String) (s : Text) : List (Nat × Text) :=
  sounds.zipIdx.filterMap fun (sound, i) => (dropLead? (Text.of sound) s).map fun rest => (i, rest)

/-- The syllable that sounds make. -/
def syllable? (s : Text) : Option CodePoint :=
  (soundsAtStart initialSounds s).findSome? fun (i, s) =>
    (soundsAtStart vowelSounds s).findSome? fun (v, s) =>
      (soundsAtStart finalSounds s).findSome? fun (f, s) =>
        if s.isEmpty then some (0xAC00 + (i * 21 + v) * 28 + f) else none

/-! ## All names -/

/-- The character with a name. Names in lists are the same in small letters. -/
def characterNamed? (name : Text) : Option CodePoint :=
  match dropLead? (Text.of "HANGUL SYLLABLE ") name, dropLead? (Text.of "CJK UNIFIED IDEOGRAPH-") name with
  | some sounds, _ => syllable? sounds
  | _, some digits => ideograph? digits
  | none, none => nameLists.findSome? (findName? (splitOn space (name.map asciiUpper)))

end UrlRules.Text
