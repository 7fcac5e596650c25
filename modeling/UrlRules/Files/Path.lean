import UrlRules.Text.Basic

/-!
# Paths

A path has a root, which is empty for a relative one, and the names on the way. Empty names and
single dots are dropped; two dots stay. Two slashes at the start are a root of their own, more of
them are one.
-/
namespace UrlRules

open Text

structure Path where
  root : Text
  names : List Text
  deriving DecidableEq, Repr, Inhabited

namespace Path

def slash : CodePoint := 0x2F
def dot : CodePoint := 0x2E

def rootOf (s : Text) : Text :=
  let slashes := (s.takeWhile (· == slash)).length
  if slashes = 0 then [] else if slashes = 2 then [slash, slash] else [slash]

/-- The names between slashes that count. -/
def namesOf (s : Text) : List Text :=
  (splitOn slash s).filter fun name => !name.isEmpty && name != [dot]

def ofText (s : Text) : Path := ⟨rootOf s, namesOf s⟩

def text (p : Path) : Text :=
  let names := joinWith [slash] p.names
  if p.root.isEmpty && p.names.isEmpty then [dot] else p.root ++ names

def isAbsolute (p : Path) : Bool := !p.root.isEmpty

/-- A path below another one, unless it is absolute. -/
def join (base p : Path) : Path := if p.isAbsolute then p else ⟨base.root, base.names ++ p.names⟩

def parent (p : Path) : Path := ⟨p.root, p.names.dropLast⟩

/-- The last name. -/
def name (p : Path) : Text := p.names.getLastD []

/-- The last name without its ending: what follows its last dot, unless the dot is at one of its
ends. -/
def stem (p : Path) : Text :=
  let name := p.name
  let ending := (name.reverse.takeWhile (· != dot)).length
  let size := name.length - ending - 1
  if ending = 0 ∨ name.length ≤ ending + 1 then name else name.take size

end Path
end UrlRules
