import UrlRules.Text.Percent

/-!
# Query parameters

A URL is a base and a fragment, the base a path and a query, and the query pairs between
ampersands. The key of a pair is the decoded text before its first equals sign.
-/
namespace UrlRules.Query

open Text

def hashSign : CodePoint := 0x23
def questionMark : CodePoint := 0x3F
def ampersand : CodePoint := 0x26
def equalsSign : CodePoint := 0x3D

/-- A URL cut at its first `#`, and before that at its first `?`. -/
structure Parts where
  path : Text
  query : Option Text
  fragment : Option Text
  deriving DecidableEq, Repr

def parts (url : Text) : Parts :=
  let (base, fragment) := cut hashSign url
  let (path, query) := cut questionMark base
  ⟨path, query, fragment⟩

/-- A piece after the sign that starts it, if there is one. -/
def lead (sign : CodePoint) : Option Text → Text
  | none => []
  | some s => sign :: s

def Parts.url (p : Parts) : Text :=
  p.path ++ lead questionMark p.query ++ lead hashSign p.fragment

def pairs (query : Text) : List Text := splitOn ampersand query

/-- The decoded name of a pair. -/
def key (pair : Text) : Text := Percent.decode (cut equalsSign pair).1

/-- The query of the pairs that are left; empty ones are dropped too. -/
def queryOf (pairs : List Text) : Option Text :=
  match pairs.filter fun pair => !pair.isEmpty with
  | [] => none
  | kept => some (joinWith [ampersand] kept)

/-- The URL without the parameters of the given names; none if it has none of them. -/
def remove (url : Text) (names : List Text) : Option Text :=
  let p := parts url
  match p.query with
  | none => none
  | some [] => none
  | some query =>
      let stays (pair : Text) : Bool := !names.contains (key pair)
      if (pairs query).all stays then none
      else some { p with query := queryOf ((pairs query).filter stays) }.url

end UrlRules.Query
