import UrlRules.Text.Utf8

/-!
# Percent encoding in queries

A plus sign stands for a space, and `%XX` for one octet of UTF-8. Octets are read together with the
ASCII characters beside them, malformed parts become U+FFFD, and a `%` without two hexadecimal
digits stands for itself.
-/
namespace UrlRules.Text.Percent

def percentSign : CodePoint := 0x25
def plusSign : CodePoint := 0x2B

/-- The octet written by two hexadecimal digits at the start of a text. -/
def octetAtStart? : Text → Option Utf8.Octet
  | high :: low :: _ => do return (← hexValue? high) * 16 + (← hexValue? low)
  | _ => none

/-- Decodes a text after the octets in `pending`, latest first. -/
def decodeAfter (pending : List Utf8.Octet) : Text → Text
  | [] => Utf8.decodeLossy pending.reverse
  | c :: rest =>
      if 0x80 ≤ c then Utf8.decodeLossy pending.reverse ++ c :: decodeAfter [] rest
      else if c = plusSign then decodeAfter (space :: pending) rest
      else if c = percentSign then
        match octetAtStart? rest with
        | some b => decodeAfter (b :: pending) (rest.drop 2)
        | none => decodeAfter (c :: pending) rest
      else decodeAfter (c :: pending) rest
  termination_by s => s.length

/-- The text that a piece of a query stands for. -/
def decode (s : Text) : Text := decodeAfter [] s

end UrlRules.Text.Percent
