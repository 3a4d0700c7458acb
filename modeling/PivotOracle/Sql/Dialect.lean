import PivotOracle.Vocabulary

/-!
# Dialects

The two SQL dialects whose rules are known. What a dialect can express is a matter of rendering, what
its engine computes a matter of prediction; here are its words alone.
-/

namespace PivotOracle

/-- A dialect of SQL, and the engine that speaks it. -/
inductive Dialect where
  | mysql
  | sqlite
deriving DecidableEq, Repr

namespace Dialect

/-- The name of a dialect. -/
def label : Dialect → Text
  | .mysql => "mysql"
  | .sqlite => "sqlite"

/-- The words for the dialects. -/
def vocabulary : Vocabulary Dialect where
  title := "Dialects"
  members := [.mysql, .sqlite]
  name
    | .mysql => "MYSQL"
    | .sqlite => "SQLITE"
  spelling := label
  aliases := [("sqlite3", .sqlite)]
  ignoresCase := true

/-- How messages name the rules of writing of a dialect. -/
def rendererName : Dialect → Text
  | .mysql => "MySQLDialect"
  | .sqlite => "SQLiteDialect"

end Dialect

end PivotOracle
