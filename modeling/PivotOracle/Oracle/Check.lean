import PivotOracle.Oracle.Session
import PivotOracle.Trace

/-!
# Checks

A check asks an engine for the value of an expression and compares it with the prediction. An
expression that the dialect cannot express is refused first; a case that cannot be predicted asks the
engine for nothing.

* `Expr.check` — the outcome of a check, which fails where the engine disagrees.
-/

namespace PivotOracle

/-- The prediction of an expression; a discard is logged. -/
def Expr.predictLogged (d : Dialect) (e : Expr) : SessionM Prediction := do
  let outcome ← SessionM.lift (e.predict d)
  match outcome with
  | .discarded reason => SessionM.log .debug ("[EVALUATION] discarding case: " ++ reason.message)
  | .value _ => pure ()
  return outcome

/-- The value that an engine gives for a query. -/
def askEngine (query : Text) : SessionM Scalar := do
  SessionM.log .debug ("[ORACLE] executing " ++ query)
  match ← SessionM.execute query with
  | none => throw (.noRows query)
  | some raw =>
    match raw.convert with
    | .ok v => return v
    | .error e => throw (.conversion e)

/-- Compares the value that an engine gives for a query with the predicted one. -/
def compareAnswer (style : TraceStyle) (d : Dialect) (e : Expr) (query : Text)
    (predicted actual : Scalar) : SessionM Prediction := do
  if actual = predicted then
    SessionM.log .debug ("[ORACLE] " ++ query ++ " matched " ++ predicted.shown)
    return .value predicted
  else
    let trace ← SessionM.lift (e.trace style d)
    let report : Mismatch := ⟨query, predicted, actual, trace, d.label⟩
    SessionM.log .error ("[ORACLE] " ++ report.render)
    throw (.mismatch report)

/-- Checks the prediction of an expression against an engine. -/
def Expr.check (style : TraceStyle) (d : Dialect) (e : Expr) : SessionM Prediction := do
  let _ ← SessionM.lift (e.validate d)
  match ← e.predictLogged d with
  | .discarded reason => return .discarded reason
  | .value predicted =>
    let query ← SessionM.lift (e.query d)
    compareAnswer style d e query predicted (← askEngine query)

end PivotOracle
