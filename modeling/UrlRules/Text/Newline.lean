import UrlRules.Text.Basic

/-!
# Line ends

A text file may end its lines with a line feed, a carriage return, or both.
-/
namespace UrlRules.Text

/-- The text with a line feed for every line end. -/
def withLineFeeds : Text → Text
  | [] => []
  | [c] => if c = carriageReturn then [lineFeed] else [c]
  | c :: d :: rest =>
      if c = carriageReturn then
        if d = lineFeed then lineFeed :: withLineFeeds rest else lineFeed :: withLineFeeds (d :: rest)
      else c :: withLineFeeds (d :: rest)

end UrlRules.Text
