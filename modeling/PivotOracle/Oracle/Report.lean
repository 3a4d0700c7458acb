import PivotOracle.Sql.Scalar

/-!
# Reports

What is told of an engine that disagrees with a prediction: the statement, the two values, and the
trace that shows what was expected of each part.
-/

namespace PivotOracle

/-- A disagreement between a prediction and an engine. -/
structure Mismatch where
  query : Text
  predicted : Scalar
  actual : Scalar
  trace : Text
  dialect : Text
deriving DecidableEq, Repr

namespace Mismatch

/-- The report in print, each line but the statement a comment of SQL. The trace comes last, if it
has a line. -/
def render (r : Mismatch) : Text :=
  let trace := r.trace.trimEnd (.char '\n')
  let traceSection : Text :=
    if trace.isEmpty then [] else "\n-- expected values by subexpression:\n" ++ trace
  "-- oracle mismatch (" ++ r.dialect ++ ")\n" ++ r.query ++ ";\n-- expected: " ++ r.predicted.shown
    ++ "\n-- actual: " ++ r.actual.shown ++ traceSection

/-- The message about a disagreement, where none is given. -/
def defaultMessage (r : Mismatch) : Text :=
  "Expected " ++ r.predicted.shown ++ " but engine returned " ++ r.actual.shown
    ++ " for query " ++ r.query

/-- The message about a disagreement: the one that is given, unless it is empty. -/
def message (r : Mismatch) (given : Text) : Text :=
  if given.isEmpty then r.defaultMessage else given

end Mismatch

end PivotOracle
