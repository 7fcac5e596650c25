import UrlRules.Text.Basic

/-!
# Character classes as ranges

A class of characters is a list of closed ranges.
-/
namespace UrlRules.Text

def inRanges (ranges : List (CodePoint × CodePoint)) (c : CodePoint) : Bool :=
  ranges.any fun (first, last) => first ≤ c && c ≤ last

theorem inRanges_iff {ranges : List (CodePoint × CodePoint)} {c : CodePoint} :
    inRanges ranges c = true ↔ ∃ r ∈ ranges, r.1 ≤ c ∧ c ≤ r.2 := by
  simp [inRanges]

end UrlRules.Text
