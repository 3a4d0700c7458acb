import PivotOracle.Predict.Function

/-!
# Prediction

The value that an engine is expected to give for an expression. Operands are evaluated from left to
right, and all of them: no operator stops at the first operand. An expression whose value is not
known for certain fails with a discard.

* `Expr.evaluate` — the value of an expression, or why it has none.
* `Select.keepsPivot` — whether a statement surely keeps the pivot row.
* `Expr.predict` — the outcome of a prediction, in which a discard is an answer and no error.
-/

namespace PivotOracle

/-- The type that an argument has for a function: that of its column, or that of its value. -/
def Expr.argumentType : Expr → Scalar → ValueType
  | .column c _, _ => c.datatype
  | _, v => v.datatype

/-- The value of a call of which the arguments are evaluated. Only functions of MySQL ask for the types
of their arguments, and there the type of an argument is that of the value it has. -/
def evaluateCall (f : FunctionDefinition) (arguments : List Expr) (values : List Scalar) :
    Except Failure Scalar :=
  f.evaluate values (List.zipWith (fun e v => .ok (e.argumentType v)) arguments values)

/-- Whether two conditions hold. The second is looked at where the first one holds. -/
def bothHold (first second : Except Failure Bool) : Except Failure Bool := do
  if ← first then second else .ok false

/-- Whether the value of a condition is true, neither false nor unknown. -/
def isSurelyTrue (d : Dialect) (value : Except Failure Scalar) : Except Failure Bool := do
  return (← truthOf d (← value)) = some true

mutual

/-- The value of an expression in a dialect. -/
def Expr.evaluate (d : Dialect) : Expr → Except Failure Scalar
  | .constant v => do requireSafeStart v; return v
  | .column _ v => do requireSafeStart v; return v
  | .unary op e => do op.apply d (← e.evaluate d)
  | .postfixTest op e => do op.apply d (← e.evaluate d)
  | .arithmetic op l r => do
    let a ← l.evaluate d
    let b ← r.evaluate d
    op.apply d a b
  | .comparison op l r => do
    let a ← l.evaluate d
    let b ← r.evaluate d
    op.apply d (l.carriesAffinity || r.carriesAffinity) (l.isCollated || r.isCollated) a b
  | .connective op l r => do
    let a ← l.evaluate d
    let b ← r.evaluate d
    op.apply d a b
  | .collate e _ => e.evaluate d
  | .typeName t => .error (.fault (.typeHasNoValue t))
  | .cast e target => do castTo d target (← e.evaluate d)
  | .between negated e low high => do
    let v ← e.evaluate d
    let a ← low.evaluate d
    let b ← high.evaluate d
    PivotOracle.between d negated v a b
  | .isIn negated e candidates => do
    let v ← e.evaluate d
    let values ← Expr.evaluateAll d candidates
    PivotOracle.isIn d negated v values
  | .sortTerm ⟨e, _⟩ => e.evaluate d
  | .join ⟨_, condition, _⟩ => condition.evaluate d
  | .existsRow negated ⟨_, _, joins, filter, _, _⟩ => do
    if ← bothHold (Expr.joinsKeepPivot d joins) (Expr.filterKeepsPivot d filter) then
      .ok (.ofBool (!negated))
    else .error (.discard .pivotFiltered)
  | .subquery _ expected => expected.evaluate d
  | .call f arguments => do
    let definition ← definitionOf d f
    definition.checkCount arguments.length
    let values ← Expr.evaluateArguments d arguments
    evaluateCall definition arguments values

/-- The values of expressions, in order. -/
def Expr.evaluateAll (d : Dialect) : List Expr → Except Failure (List Scalar)
  | [] => .ok []
  | e :: rest => do
    let v ← e.evaluate d
    return v :: (← Expr.evaluateAll d rest)

/-- The values of the arguments of a call, each of which must read the same everywhere. -/
def Expr.evaluateArguments (d : Dialect) : List Expr → Except Failure (List Scalar)
  | [] => .ok []
  | e :: rest => do
    let v ← e.evaluate d
    requireSafeStart v
    return v :: (← Expr.evaluateArguments d rest)

/-- Whether the conditions of joins are true of the pivot row. The first that is not ends the
question. -/
def Expr.joinsKeepPivot (d : Dialect) : List (JoinClause Expr) → Except Failure Bool
  | [] => .ok true
  | ⟨_, condition, _⟩ :: rest =>
    bothHold (isSurelyTrue d (condition.evaluate d)) (Expr.joinsKeepPivot d rest)

/-- Whether a condition on rows, if there is one, is true of the pivot row. -/
def Expr.filterKeepsPivot (d : Dialect) : Option Expr → Except Failure Bool
  | none => .ok true
  | some condition => isSurelyTrue d (condition.evaluate d)

end

/-- Whether the conditions of a statement are all true of the pivot row. -/
def Select.keepsPivot (d : Dialect) (s : Select Expr) : Except Failure Bool :=
  bothHold (Expr.joinsKeepPivot d s.joins) (Expr.filterKeepsPivot d s.filter)

/-- The outcome of a prediction. -/
inductive Prediction where
  | value (v : Scalar)
  | discarded (reason : Discard)
deriving DecidableEq, Repr

/-- The prediction of an expression: its value, or why the case is given up. -/
def Expr.predict (d : Dialect) (e : Expr) : Except Failure Prediction :=
  match e.evaluate d with
  | .ok v => .ok (.value v)
  | .error (.discard reason) => .ok (.discarded reason)
  | .error failure => .error failure

/-- The type of an expression: that of its column, or that of its value in MySQL. -/
def Expr.type : Expr → TypeResult
  | .column c _ => .ok c.datatype
  | e => do return (← e.evaluate .mysql).datatype

end PivotOracle
