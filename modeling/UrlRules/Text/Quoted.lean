import UrlRules.Text.Printable

/-!
# Quoted text

A text in messages stands between apostrophes, or between quotation marks if it holds an apostrophe
and no quotation mark. The delimiter, the backslash and unprintable characters are escaped.
-/
namespace UrlRules.Text

def apostrophe : CodePoint := 0x27
def quotationMark : CodePoint := 0x22
def backslash : CodePoint := 0x5C

/-- A code point as `\xNN`, `\uNNNN` or `\UNNNNNNNN`, whichever is the first to hold it. -/
def numericEscape (c : CodePoint) : Text :=
  if c ≤ 0xFF then backslash :: 0x78 :: hexPadded 2 c
  else if c ≤ 0xFFFF then backslash :: 0x75 :: hexPadded 4 c
  else backslash :: 0x55 :: hexPadded 8 c

def quotedCharacter (delimiter c : CodePoint) : Text :=
  if c = delimiter ∨ c = backslash then [backslash, c]
  else if c = 0x09 then [backslash, 0x74]
  else if c = lineFeed then [backslash, 0x6E]
  else if c = carriageReturn then [backslash, 0x72]
  else if isPrintable c then [c]
  else numericEscape c

def delimiterFor (s : Text) : CodePoint :=
  if s.contains apostrophe && !s.contains quotationMark then quotationMark else apostrophe

def quoted (s : Text) : Text :=
  let delimiter := delimiterFor s
  delimiter :: s.flatMap (quotedCharacter delimiter) ++ [delimiter]

end UrlRules.Text
