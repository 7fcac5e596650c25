import UrlRules.Pattern.Matcher
import UrlRules.Pattern.Reader

/-!
# Searching

A search tries the places of a text from the left and gives the first match. Where the pattern
starts with a set, only places before a character of the set are tried, and there the classes of the
set are those of the flags of the whole pattern.
-/
namespace UrlRules

namespace Pattern

/-- A match: where it starts and ends, and what the groups captured. -/
structure Match where
  subject : Text
  first : Nat
  last : Nat
  marks : List Mark
  deriving DecidableEq, Repr

/-- The text of a group; none if it did not take part. -/
def Match.group? (m : Match) (group : Nat) : Option Text :=
  (Point.spanOf? m.marks group).map fun (first, last) => slice m.subject first last

def widthOf (p : Pattern) (group : Nat) : Width := p.widths.getD (group - 1) ⟨0, 0⟩

/-- The set that an expression starts with, unless case matters for it. -/
def Node.lead? (f : Flags) : Node → Option CharSet
  | .seq first _ => first.lead? f
  | .group _ on off body => body.lead? (f.within on off)
  | .set s => if f.ignoreCase && s.items.any (·.hasCased f) then none else some s
  | _ => none

def lead? (p : Pattern) : Option CharSet := p.root.lead? p.flags

/-- Whether a match before the text `rest` is tried. -/
def startsBefore (p : Pattern) (rest : Text) : Bool :=
  match p.lead?, rest with
  | some s, c :: _ => s.holds { p.flags with ignoreCase := false } c
  | _, _ => true

/-- Matches a pattern at a point. With `advance` only a match of at least one character counts. -/
def matchAt (p : Pattern) (subject : Text) (advance : Bool) (point : Point) : Option Point :=
  p.root.run subject p.widthOf p.flags
    (fun q => if advance && q.place == point.place then none else some q)
    { point with marks := [] }

/-- Tries the place of a point, and then those after it. -/
def searchFrom (p : Pattern) (subject : Text) : Bool → Text → Text → Nat → Option Match
  | advance, before, rest, place =>
      let found :=
        if p.startsBefore rest then p.matchAt subject advance ⟨before, rest, place, []⟩ else none
      match found with
      | some q => some ⟨subject, place, q.place, q.marks⟩
      | none =>
          match rest with
          | [] => none
          | c :: rest => searchFrom p subject false (c :: before) rest (place + 1)
  termination_by _ _ rest => rest.length

/-- The first match in a text. -/
def search (p : Pattern) (s : Text) : Option Match := p.searchFrom s false [] s 0

/-- The text without the matches from a place on: after a match without characters, the next match
at the same place has some. `fuel` bounds the number of matches. -/
def eraseFrom (p : Pattern) (subject : Text) : Nat → Bool → Text → Text → Nat → Text
  | 0, _, _, rest, _ => rest
  | fuel + 1, advance, before, rest, place =>
      match p.searchFrom subject advance before rest place with
      | none => rest
      | some m =>
          let kept := rest.take (m.first - place)
          let passed := rest.take (m.last - place)
          kept ++ eraseFrom p subject fuel (m.first == m.last) (passed.reverse ++ before)
            (rest.drop (m.last - place)) m.last

/-- The text without all matches. -/
def erase (p : Pattern) (s : Text) : Text := p.eraseFrom s (2 * s.length + 2) false [] s 0

end Pattern
end UrlRules
