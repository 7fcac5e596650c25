import UrlRules.Console.Emoji.Table
import UrlRules.Text.Blank
import UrlRules.Text.Case

/-!
# Pictures in text

A name between colons stands for a picture. The name may end by saying whether the picture is to look
like text or like a picture. A name of no picture stands for itself.
-/
namespace UrlRules

open Text

namespace Emoji

def colon : CodePoint := 0x3A

/-- The code points that a word of the table gives, after its name. -/
def pictureOf (codes : Text) : Text :=
  (splitOn 0x2B codes).map fun digits => digitsValue 16 (digits.filterMap hexValue?)

/-- The picture in a word of the table, if it has the name. -/
def pictureIn? (name : Text) (word : String) : Option Text :=
  ((dropLead? name (Text.of word)).bind (dropLead? [0x3D])).map pictureOf

def picture? (name : Text) : Option Text :=
  ((table.splitOn "\n").flatMap (·.splitOn " ")).findSome? (pictureIn? name)

/-- Endings of names, and the code points that say how a picture is to look. -/
def looks : List (Text × CodePoint) := [("-emoji", 0xFE0F), ("-text", 0xFE0E)]

/-- Splits a name from how its picture is to look. -/
def splitLook (s : Text) : Text × Text :=
  match looks.find? fun (ending, _) => endsWith s ending with
  | some (ending, look) => (s.take (s.length - ending.length), [look])
  | none => (s, [])

/-- What stands between the colon at the start of a text and the next one, without blanks. -/
def nameAtStart? : Text → Option Text
  | [] => none
  | c :: s =>
      if c = colon then
        let name := s.takeWhile fun d => d != colon && !isBlank d
        if (s.drop name.length).head? = some colon then some name else none
      else none

/-- What a name between colons stands for. -/
def meaning (s : Text) : Text :=
  let (name, look) := splitLook s
  match picture? (lower name) with
  | some picture => picture ++ look
  | none => colon :: s ++ [colon]

/-- The text with pictures instead of their names. -/
def replaceNames : Text → Text
  | [] => []
  | c :: s =>
      match nameAtStart? (c :: s) with
      | some name => meaning name ++ replaceNames (s.drop (name.length + 1))
      | none => c :: replaceNames s
  termination_by s => s.length
  decreasing_by
    · simp only [List.length_drop, List.length_cons]
      omega
    · simp

end Emoji
end UrlRules
