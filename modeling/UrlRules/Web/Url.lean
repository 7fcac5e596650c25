import UrlRules.Text.Integer
import UrlRules.Text.Quoted
import UrlRules.Text.Utf8

/-!
# Addresses of documents

A URL has a scheme, an authority, a path, and perhaps a query and a fragment. In its usual form the
scheme and the authority are in lower case, what the scheme implies is left out, the path has no dots
as names, and what may not stand in a URL is percent-encoded.
-/
namespace UrlRules

open Text

structure Url where
  /-- Empty if there is none. -/
  scheme : Text
  /-- Empty if there is none. -/
  authority : Text
  path : Text
  query : Option Text
  fragment : Option Text
  deriving DecidableEq, Repr

namespace Url

def colon : CodePoint := 0x3A
def slash : CodePoint := 0x2F
def questionMark : CodePoint := 0x3F
def numberSign : CodePoint := 0x23
def percentSign : CodePoint := 0x25
def atSign : CodePoint := 0x40

/-- A text with more characters is no URL. -/
def maxLength : Nat := 65536

def isSchemeCharacter (c : CodePoint) : Bool :=
  isAsciiLetter c || isAsciiDigit c || c == 0x2B || c == 0x2D || c == 0x2E

def isScheme : Text → Bool
  | [] => false
  | c :: s => isAsciiLetter c && s.all isSchemeCharacter

def asciiLowered (s : Text) : Text := s.map fun c => if isAsciiUpper c then c + 32 else c

/-- Splits off a scheme. -/
def splitScheme (s : Text) : Text × Text :=
  match cut colon s with
  | (head, some rest) => if isScheme head then (asciiLowered head, rest) else ([], s)
  | _ => ([], s)

/-- Splits off an authority, which follows two slashes. -/
def splitAuthority (s : Text) : Text × Text :=
  match dropLead? [slash, slash] s with
  | some rest => rest.span fun c => c != slash
  | none => ([], s)

/-- Characters that stand for themselves in every part of a URL. -/
def isPlain (c : CodePoint) : Bool :=
  0x20 < c && c < 0x7F && c != 0x22 && c != 0x3C && c != 0x3E

def isPlainInPath (c : CodePoint) : Bool :=
  isPlain c && c != numberSign && c != questionMark && c != 0x60 && c != 0x7B && c != 0x7D

def isPlainInQuery (c : CodePoint) : Bool := isPlain c && c != numberSign

def isPlainInFragment (c : CodePoint) : Bool := isPlain c && c != 0x60

def upperHexDigit (n : Nat) : CodePoint := if n < 10 then 0x30 + n else 0x37 + n

def encodeOctet (b : Utf8.Octet) : Text :=
  [percentSign, upperHexDigit (b / 16), upperHexDigit (b % 16)]

/-- Encodes the characters outside a class. A percent sign starts an encoded octet if two hexadecimal
digits follow. -/
def encode (plain : CodePoint → Bool) : Text → Text
  | [] => []
  | c :: s =>
      let kept := if c = percentSign then (s.take 2).length = 2 ∧ (s.take 2).all isHexDigit else plain c
      (if kept then [c] else (Utf8.encodeOne c).flatMap encodeOctet) ++ encode plain s

/-- Leaves out the names that are dots; two of them also leave out the name before. -/
def withoutDots (names : List Text) : List Text :=
  names.foldl (fun kept name =>
    if name = [0x2E] then kept
    else if name = [0x2E, 0x2E] then if kept = [[]] then kept else kept.dropLast
    else kept ++ [name]) []

def normalPath (path : Text) : Text := joinWith [slash] (withoutDots (splitOn slash path))

/-- The end of an authority that says nothing new, since the scheme implies it. -/
def impliedEnd? (scheme : Text) : Option Text :=
  if scheme = "http" then some ":80" else if scheme = "https" then some ":443" else none

def normalAuthority (scheme authority : Text) : Text :=
  let s := asciiLowered authority
  match impliedEnd? scheme with
  | some tail => if endsWith s tail then s.take (s.length - tail.length) else s
  | none => s

/-- What stands for a port in an authority: after the name of a user and that of a host, which may be in brackets. -/
def portOf (authority : Text) : Text :=
  let s := ((cut atSign authority).2).getD authority
  let afterHost :=
    if s.head? = some 0x5B ∧ s.contains 0x5D then (s.reverse.takeWhile (· != 0x5D)).reverse
    else s.dropWhile fun c => c != colon && c != atSign
  (dropLead? [colon] afterHost).getD afterHost

/-- Why a text is no URL, if it is none. The name of the host is not looked at. -/
def fault? (s : Text) : Option Text :=
  let beforeQuery := (cut questionMark (cut numberSign s).1).1
  let port := portOf (splitAuthority (splitScheme beforeQuery).2).1
  if maxLength < s.length then some "URL too long"
  else if s.any fun c => c < 0x20 || c == 0x7F then some "Invalid non-printable ASCII character in URL"
  else if !isScalar s then some "surrogates not allowed"
  else if !port.isEmpty && !(readInteger 10 port).isOk then some (Text.of "Invalid port: " ++ quoted port)
  else none

/-- The URL that a text writes, in its usual form. -/
def ofText (s : Text) : Url :=
  let (s, fragment) := cut numberSign s
  let (s, query) := cut questionMark s
  let (scheme, s) := splitScheme s
  let (authority, path) := splitAuthority s
  { scheme
    authority := normalAuthority scheme authority
    path := encode isPlainInPath
      (if scheme.isEmpty && authority.isEmpty then path else normalPath path)
    query := query.map (encode isPlainInQuery)
    fragment := fragment.map (encode isPlainInFragment) }

/-- A part that may be absent, after its mark. -/
def marked (mark : CodePoint) : Option Text → Text
  | none => []
  | some s => mark :: s

def text (u : Url) : Text :=
  (if u.scheme.isEmpty then [] else u.scheme ++ [colon]) ++
    (if u.authority.isEmpty then [] else slash :: slash :: u.authority) ++
    u.path ++ marked questionMark u.query ++ marked numberSign u.fragment

def isAbsolute (u : Url) : Bool := !u.scheme.isEmpty && !u.authority.isEmpty

/-- The path of a reference, meant from the place of a path. -/
def joinPath (base path : Text) : Text :=
  if path.head? = some slash then path
  else normalPath (joinWith [slash] ((splitOn slash base).dropLast ++ [path]))

/-- What a reference means in a document at an address. -/
def join (base reference : Url) : Url :=
  if !reference.scheme.isEmpty && reference.authority.isEmpty then
    { reference with authority := base.authority }
  else if reference.isAbsolute then reference
  else if !reference.authority.isEmpty then { reference with scheme := base.scheme }
  else if reference.path.isEmpty then
    { base with query := reference.query.or base.query, fragment := reference.fragment }
  else
    { base with
      path := normalPath (joinPath base.path reference.path)
      query := reference.query
      fragment := reference.fragment }

/-- The address that is asked for: one that is not absolute is meant from the root. -/
def requested (u : Url) : Url :=
  if u.isAbsolute then u
  else ⟨[], [], slash :: u.path.dropWhile (· == slash), u.query, none⟩

end Url
end UrlRules
