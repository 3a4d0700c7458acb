import PivotOracle.Text

/-!
# Lines

A line of a file ends with a line feed, a carriage return, or both; in a text there are line feeds
alone.
-/

namespace PivotOracle

namespace Text

/-- The content of a file with every line end as one line feed. -/
def unifyLines : Text → Text
  | .char '\r' :: .char '\n' :: t => .char '\n' :: unifyLines t
  | .char '\r' :: t => .char '\n' :: unifyLines t
  | s :: t => s :: unifyLines t
  | [] => []

end Text

end PivotOracle
