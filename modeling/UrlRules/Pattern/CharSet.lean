import UrlRules.Pattern.Basic
import UrlRules.Text.Blank
import UrlRules.Text.Case
import UrlRules.Text.Digit
import UrlRules.Text.Word

/-!
# Which characters an expression matches

Where case is ignored, two characters match if their lower-case letters are equal or share a
capital. Beyond the first 2^16 characters a set compares the lower-case letter, or its capital for
a range, with the characters as they are written in the set.
-/
namespace UrlRules.Pattern

open Text

def Category.holds (f : Flags) (x : CodePoint) : Category → Bool
  | .digit => if f.ascii then isAsciiDigit x else isDigit x
  | .blank => if f.ascii then isAsciiBlank x else isBlank x
  | .word => if f.ascii then isAsciiWord x else isWord x

/-- The lower-case letter that stands for a character where case is ignored. -/
def Flags.lower (f : Flags) (x : CodePoint) : CodePoint :=
  if f.ascii then asciiLower x else simpleLower x

/-- The lower-case letters that a character matches where case is ignored. -/
def Flags.folds (f : Flags) (c : CodePoint) : List CodePoint :=
  let l := f.lower c
  if f.ascii then [l] else l :: caseVariants l

/-- Whether `x` matches the single character `c`. -/
def Flags.matchesChar (f : Flags) (c x : CodePoint) : Bool :=
  if f.ignoreCase then (f.folds c).contains (f.lower x) else c == x

/-- The characters other than itself whose lower-case letter is `l`. -/
def capitalsOf (ascii : Bool) (l : CodePoint) : List CodePoint :=
  (if isAsciiLower l then [l - 32] else []) ++
    if ascii then []
    else
      lowerRuns.filterMap fun run =>
        let c : CodePoint := (Int.ofNat l - run.offset).toNat
        if run.covers c && Int.ofNat c + run.offset == Int.ofNat l then some c else none

/-- Whether some character from `first` to `last` matches the lower-case letter `l`. -/
def rangeFoldsTo (f : Flags) (first last l : CodePoint) : Bool :=
  let inRange (c : CodePoint) : Bool := first ≤ c && c ≤ last
  let letters := if f.ascii then [l] else l :: caseVariants l
  letters.any fun m => (f.lower m == m && inRange m) || (capitalsOf f.ascii m).any inRange

def lastOfFirstPlane : CodePoint := 0xFFFF

/-- Whether the lower-case letter `l` is in an item of a set where case is ignored. -/
def SetItem.holdsFolded (f : Flags) (l : CodePoint) : SetItem → Bool
  | .single c => if c ≤ lastOfFirstPlane then (f.folds c).contains l else c == l
  | .range first last =>
      rangeFoldsTo f first (min last lastOfFirstPlane) l ||
        (lastOfFirstPlane < last &&
          ((first ≤ l && l ≤ last) || (first ≤ simpleUpper l && simpleUpper l ≤ last)))
  | .category positive kind => kind.holds f l == positive

def SetItem.holds (f : Flags) (x : CodePoint) : SetItem → Bool
  | .single c => c == x
  | .range first last => first ≤ x && x ≤ last
  | .category positive kind => kind.holds f x == positive

def CharSet.holds (f : Flags) (s : CharSet) (x : CodePoint) : Bool :=
  let found :=
    if f.ignoreCase then s.items.any (·.holdsFolded f (f.lower x)) else s.items.any (·.holds f x)
  found != s.negated

/-- Whether some character from `first` to `last` has another case. -/
def Flags.anyCased (f : Flags) (first last : CodePoint) : Bool :=
  (asciiRuns ++ if f.ascii then [] else lowerRuns ++ upperRuns).any (·.meets first last)

/-- Whether an item of a set has characters to compare in either case. -/
def SetItem.hasCased (f : Flags) : SetItem → Bool
  | .single c => f.anyCased c c
  | .range first last => lastOfFirstPlane < last || f.anyCased first last
  | .category _ _ => false

/-- Whether an expression that stands for one character matches `x`. -/
def Node.matchesUnit (f : Flags) (x : CodePoint) : Node → Bool
  | .char c => f.matchesChar c x
  | .notChar c => !f.matchesChar c x
  | .any => f.dotAll || x != lineFeed
  | .set s => s.holds f x
  | _ => false

end UrlRules.Pattern
