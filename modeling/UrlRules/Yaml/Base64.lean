import UrlRules.Yaml.Error

/-!
# Octets written in base 64

Four characters stand for three octets. Other characters are skipped, and the text ends with the
padding of an incomplete group.
-/
namespace UrlRules.Yaml.Base64

open Text

/-- The six bits of a character. -/
def sextet? (c : CodePoint) : Option Nat :=
  if isAsciiUpper c then some (c - 0x41)
  else if isAsciiLower c then some (c - 0x61 + 26)
  else if isAsciiDigit c then some (c - 0x30 + 52)
  else if c = 0x2B then some 62
  else if c = 0x2F then some 63
  else none

/-- The sextets before the padding, and whether there is a padding of a group that needs one. `pads`
counts the marks of padding since the last sextet. -/
def sextets : (pads : Nat) → List Nat → Text → List Nat × Bool
  | _, read, [] => (read.reverse, false)
  | pads, read, c :: rest =>
      if c = 0x3D then
        let inGroup := read.length % 4
        if 2 ≤ inGroup then
          if 4 ≤ inGroup + pads + 1 then (read.reverse, true) else sextets (pads + 1) read rest
        else sextets pads read rest
      else
        match sextet? c with
        | some n => sextets 0 (n :: read) rest
        | none => sextets pads read rest

/-- The octets of groups of sextets; an incomplete last group gives those it has all bits of. -/
def octets : List Nat → List Utf8.Octet
  | a :: b :: c :: d :: rest =>
      [a * 4 + b / 16, b % 16 * 16 + c / 4, c % 4 * 64 + d] ++ octets rest
  | [a, b, c] => [a * 4 + b / 16, b % 16 * 16 + c / 4]
  | [a, b] => [a * 4 + b / 16]
  | _ => []

def decode (s : Text) : Except Base64Fault (List Utf8.Octet) :=
  let (read, padded) := sextets 0 [] s
  let inGroup := read.length % 4
  if padded ∨ inGroup = 0 then .ok (octets read)
  else if inGroup = 1 then .error (.lonelyCharacter read.length)
  else .error .padding

end UrlRules.Yaml.Base64
