import UrlRules.Text.Ranges

/-!
# Blanks

The spaces and line ends of every script, with the four information separators.
-/
namespace UrlRules.Text

def blankRanges : List (CodePoint × CodePoint) := [
    (0x0009, 0x000D), (0x001C, 0x0020), (0x0085, 0x0085), (0x00A0, 0x00A0), (0x1680, 0x1680),
    (0x2000, 0x200A), (0x2028, 0x2029), (0x202F, 0x202F), (0x205F, 0x205F), (0x3000, 0x3000)]

def isBlank (c : CodePoint) : Bool := inRanges blankRanges c

/-- Space, tab, line feed, carriage return, vertical tab and form feed. -/
def isAsciiBlank (c : CodePoint) : Bool := c == 0x20 || (0x09 ≤ c && c ≤ 0x0D)

/-- The text without blanks at its ends. -/
def strip (s : Text) : Text := trim isBlank s

end UrlRules.Text
