import PivotOracle.Prediction
import PivotOracle.Sql.Render
import PivotOracle.TraceStyle

/-!
# Traces

A trace shows for an expression and for each expression in it the SQL text and the value that is
expected there, one line each, outer expressions first. It is what a person reads to find the part in
which an engine disagrees. Where a value is not certain the line says why; any other failure ends the
trace.

* `Expr.visit`, `Select.visit` — the lines of a trace, and the failure that ended it.
* `Expr.trace`, `Select.trace` — the trace of what passes validation.
* `nestedTraces` — traces inside nested blocks of overridden settings.
-/

namespace PivotOracle

/-- Lines written so far, and the failure after which no line follows. -/
structure Trace where
  lines : List Text
  failure : Option Failure

namespace Trace

/-- A trace without a line. -/
def empty : Trace := ⟨[], none⟩

/-- One trace after another; nothing follows a failure. -/
def append (a b : Trace) : Trace :=
  match a.failure with
  | some _ => a
  | none => ⟨a.lines ++ b.lines, b.failure⟩

/-- The trace of one line. -/
def ofLine : Except Failure Text → Trace
  | .ok line => ⟨[line], none⟩
  | .error failure => ⟨[], some failure⟩

/-- The lines of a trace as one text. -/
def text (t : Trace) : Text := t.lines.flatten

/-- The text of a trace that no failure ended. -/
def complete (t : Trace) : Except Failure Text :=
  match t.failure with
  | none => .ok t.text
  | some failure => .error failure

end Trace

/-- What a trace says of the value of an expression. -/
def annotation (d : Dialect) (e : Expr) : Except Failure Text :=
  match e.evaluate d with
  | .ok v => .ok (d.literal v)
  | .error (.discard reason) => .ok ("UNINFORMATIVE (" ++ reason.message ++ ")")
  | .error failure => .error failure

/-- The line of an expression. -/
def traceLine (style : TraceStyle) (d : Dialect) (e : Expr) : Except Failure Text := do
  let value ← annotation d e
  let sql ← e.render d
  return sql ++ style.separator.shown ++ value ++ "\n"

/-- The line of an expression and the lines of its parts. -/
def traceNode (style : TraceStyle) (d : Dialect) (e : Expr) (parts : Trace) : Trace :=
  (Trace.ofLine (traceLine style d e)).append parts

mutual

/-- The lines of an expression and of the expressions in it. The name of a type has none. -/
def Expr.visit (style : TraceStyle) (d : Dialect) : Expr → Trace
  | .constant v => traceNode style d (.constant v) .empty
  | .column c v => traceNode style d (.column c v) .empty
  | .unary op e => traceNode style d (.unary op e) (e.visit style d)
  | .postfixTest op e => traceNode style d (.postfixTest op e) (e.visit style d)
  | .arithmetic op l r =>
    traceNode style d (.arithmetic op l r) ((l.visit style d).append (r.visit style d))
  | .comparison op l r =>
    traceNode style d (.comparison op l r) ((l.visit style d).append (r.visit style d))
  | .connective op l r =>
    traceNode style d (.connective op l r) ((l.visit style d).append (r.visit style d))
  | .collate e collation => traceNode style d (.collate e collation) (e.visit style d)
  | .typeName _ => .empty
  | .cast e target => traceNode style d (.cast e target) (e.visit style d)
  | .between negated e low high =>
    traceNode style d (.between negated e low high)
      ((e.visit style d).append ((low.visit style d).append (high.visit style d)))
  | .isIn negated e candidates =>
    traceNode style d (.isIn negated e candidates)
      ((e.visit style d).append (Expr.visitAll style d candidates))
  | .sortTerm ⟨e, order⟩ => traceNode style d (.sortTerm ⟨e, order⟩) (e.visit style d)
  | .join ⟨table, condition, kind⟩ =>
    traceNode style d (.join ⟨table, condition, kind⟩) (condition.visit style d)
  | .existsRow negated ⟨columns, tables, joins, filter, orderBy, limit⟩ =>
    traceNode style d (.existsRow negated ⟨columns, tables, joins, filter, orderBy, limit⟩)
      (Expr.visitFilter style d filter)
  | .subquery query expected =>
    traceNode style d (.subquery query expected) (expected.visit style d)
  | .call f arguments =>
    traceNode style d (.call f arguments) (Expr.visitAll style d arguments)

/-- The lines of expressions, in order. -/
def Expr.visitAll (style : TraceStyle) (d : Dialect) : List Expr → Trace
  | [] => .empty
  | e :: rest => (e.visit style d).append (Expr.visitAll style d rest)

/-- The lines of a condition on rows, if there is one. -/
def Expr.visitFilter (style : TraceStyle) (d : Dialect) : Option Expr → Trace
  | none => .empty
  | some condition => condition.visit style d

end

/-- The lines of the condition on rows of a statement. -/
def Select.visit (style : TraceStyle) (d : Dialect) (s : Select Expr) : Trace :=
  Expr.visitFilter style d s.filter

/-- The trace of an expression that passes validation. -/
def Expr.trace (style : TraceStyle) (d : Dialect) (e : Expr) : Except Failure Text := do
  let _ ← e.validate d
  (e.visit style d).complete

/-- The trace of a statement that passes validation. -/
def Select.trace (style : TraceStyle) (d : Dialect) (s : Select Expr) : Except Failure Text := do
  let _ ← s.validate d
  (s.visit style d).complete

/-- Traces made one after the other, and the failure after which none was made. -/
structure TraceSeries where
  traces : List Text
  failure : Option Failure

/-- The series that goes on with one more trace, unless it has failed. -/
def TraceSeries.andThen (s : TraceSeries) (trace : Except Failure Text) : TraceSeries :=
  match s.failure, trace with
  | some _, _ => s
  | none, .ok t => ⟨s.traces ++ [t], none⟩
  | none, .error failure => ⟨s.traces, some failure⟩

/-- A trace and, unless it has failed, the series that is made after it. -/
def startSeries (trace : Except Failure Text) (s : Rendering) (rest : TraceSeries × Rendering) :
    TraceSeries × Rendering :=
  match trace with
  | .error failure => (⟨[], some failure⟩, s)
  | .ok t => ({ rest.1 with traces := t :: rest.1.traces }, rest.2)

/-- Traces made in nested blocks that override settings, one on entering each block and one on
leaving it. -/
def nestedTraces (trace : TraceStyle → Except Failure Text) :
    List Overrides → Rendering → TraceSeries × Rendering
  | [], s => (⟨[], none⟩, s)
  | overrides :: inner, s =>
    let refuse (e : SettingError) : TraceSeries := ⟨[], some (.setting e)⟩
    let block (inside : Rendering) : TraceSeries × Rendering :=
      startSeries (trace inside.style) inside (nestedTraces trace inner inside)
    let (series, after) := s.temporary overrides refuse block
    (series.andThen (trace after.style), after)

end PivotOracle
