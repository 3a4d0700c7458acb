import PivotOracle.Proofs.Tree

/-!
# Rebuilt trees

A tree is rebuilt by a function of single expressions, from the leaves up: an expression with
rebuilt parts is given to the function, and what comes back stands in its place.

* `Expr.rebuild`, `Select.rebuild` — expressions and statements, rebuilt.
* `Expr.rebuild_eq_self` — a function that changes no expression rebuilds every tree as it is.
-/

namespace PivotOracle

namespace Expr

mutual

/-- An expression, rebuilt from the leaves up. -/
def rebuild (f : Expr → Expr) : Expr → Expr
  | .constant v => f (.constant v)
  | .column c v => f (.column c v)
  | .unary op e => f (.unary op (e.rebuild f))
  | .postfixTest op e => f (.postfixTest op (e.rebuild f))
  | .arithmetic op l r => f (.arithmetic op (l.rebuild f) (r.rebuild f))
  | .comparison op l r => f (.comparison op (l.rebuild f) (r.rebuild f))
  | .connective op l r => f (.connective op (l.rebuild f) (r.rebuild f))
  | .collate e collation => f (.collate (e.rebuild f) collation)
  | .typeName t => f (.typeName t)
  | .cast e target => f (.cast (e.rebuild f) target)
  | .between negated e low high =>
    f (.between negated (e.rebuild f) (low.rebuild f) (high.rebuild f))
  | .isIn negated e candidates => f (.isIn negated (e.rebuild f) (rebuildAll f candidates))
  | .sortTerm ⟨e, order⟩ => f (.sortTerm ⟨e.rebuild f, order⟩)
  | .join ⟨table, condition, kind⟩ => f (.join ⟨table, condition.rebuild f, kind⟩)
  | .existsRow negated ⟨columns, tables, joins, filter, orderBy, limit⟩ =>
    f (.existsRow negated ⟨rebuildAll f columns, tables, rebuildJoins f joins,
      rebuildFilter f filter, rebuildSort f orderBy, limit⟩)
  | .subquery ⟨columns, tables, joins, filter, orderBy, limit⟩ expected =>
    f (.subquery ⟨rebuildAll f columns, tables, rebuildJoins f joins, rebuildFilter f filter,
      rebuildSort f orderBy, limit⟩ (expected.rebuild f))
  | .call name arguments => f (.call name (rebuildAll f arguments))

/-- Expressions, each rebuilt. -/
def rebuildAll (f : Expr → Expr) : List Expr → List Expr
  | [] => []
  | e :: rest => e.rebuild f :: rebuildAll f rest

/-- Joins with rebuilt conditions. -/
def rebuildJoins (f : Expr → Expr) : List (JoinClause Expr) → List (JoinClause Expr)
  | [] => []
  | ⟨table, condition, kind⟩ :: rest => ⟨table, condition.rebuild f, kind⟩ :: rebuildJoins f rest

/-- A condition on rows, if there is one, rebuilt. -/
def rebuildFilter (f : Expr → Expr) : Option Expr → Option Expr
  | none => none
  | some condition => some (condition.rebuild f)

/-- Sort terms with rebuilt expressions. -/
def rebuildSort (f : Expr → Expr) : List (SortTerm Expr) → List (SortTerm Expr)
  | [] => []
  | ⟨e, order⟩ :: rest => ⟨e.rebuild f, order⟩ :: rebuildSort f rest

end

end Expr

/-- A statement with rebuilt expressions. -/
def Select.rebuild (f : Expr → Expr) (query : Select Expr) : Select Expr where
  columns := query.columns.map (·.rebuild f)
  tables := query.tables
  joins := query.joins.map fun clause => { clause with condition := clause.condition.rebuild f }
  filter := query.filter.map (·.rebuild f)
  orderBy := query.orderBy.map fun term => { term with expression := term.expression.rebuild f }
  limit := query.limit

namespace Expr

variable {f : Expr → Expr}

@[simp] theorem rebuildAll_eq_map (es : List Expr) : rebuildAll f es = es.map (·.rebuild f) := by
  induction es with
  | nil => rfl
  | cons e es ih => rw [rebuildAll, ih, List.map_cons]

@[simp] theorem rebuildJoins_eq_map (joins : List (JoinClause Expr)) :
    rebuildJoins f joins =
      joins.map fun clause => { clause with condition := clause.condition.rebuild f } := by
  induction joins with
  | nil => rfl
  | cons clause joins ih => rw [rebuildJoins, ih, List.map_cons]

@[simp] theorem rebuildFilter_eq_map (filter : Option Expr) :
    rebuildFilter f filter = filter.map (·.rebuild f) := by
  cases filter <;> rfl

@[simp] theorem rebuildSort_eq_map (terms : List (SortTerm Expr)) :
    rebuildSort f terms =
      terms.map fun term => { term with expression := term.expression.rebuild f } := by
  induction terms with
  | nil => rfl
  | cons term terms ih => rw [rebuildSort, ih, List.map_cons]

theorem rebuild_isIn (negated : Bool) (e : Expr) (candidates : List Expr) :
    (isIn negated e candidates).rebuild f =
      f (.isIn negated (e.rebuild f) (candidates.map (·.rebuild f))) := by
  rw [rebuild, rebuildAll_eq_map]

theorem rebuild_call (name : FunctionName) (arguments : List Expr) :
    (call name arguments).rebuild f = f (.call name (arguments.map (·.rebuild f))) := by
  rw [rebuild, rebuildAll_eq_map]

theorem rebuild_existsRow (negated : Bool) (query : Select Expr) :
    (existsRow negated query).rebuild f = f (.existsRow negated (query.rebuild f)) := by
  cases query
  simp [rebuild, Select.rebuild]

theorem rebuild_subquery (query : Select Expr) (expected : Expr) :
    (subquery query expected).rebuild f =
      f (.subquery (query.rebuild f) (expected.rebuild f)) := by
  cases query
  simp [rebuild, Select.rebuild]

theorem rebuildSelect_eq_self {query : Select Expr} (each : ∀ e ∈ query.parts, e.rebuild f = e) :
    query.rebuild f = query := by
  have columns : query.columns.map (·.rebuild f) = query.columns := by
    refine (List.map_congr_left fun e mem => each e ?_).trans (List.map_id' _)
    exact List.mem_append_left _ (List.mem_append_left _ (List.mem_append_left _ mem))
  have joins : query.joins.map (fun clause =>
      { clause with condition := clause.condition.rebuild f }) = query.joins := by
    refine (List.map_congr_left fun clause mem => ?_).trans (List.map_id' _)
    rw [each _ (Select.condition_mem_parts mem)]
  have filter : query.filter.map (·.rebuild f) = query.filter := by
    refine (Option.map_congr fun e mem => each e ?_).trans (Option.map_id' ..)
    exact Select.filter_mem_parts mem
  have orderBy : query.orderBy.map (fun term =>
      { term with expression := term.expression.rebuild f }) = query.orderBy := by
    refine (List.map_congr_left fun term mem => ?_).trans (List.map_id' _)
    rw [each _ (List.mem_append_right _ (List.mem_map_of_mem mem))]
  rw [Select.rebuild, columns, joins, filter, orderBy]

/-- A tree stays as it is where the function changes no expression. -/
theorem rebuild_eq_self (same : ∀ e, f e = e) (e : Expr) : e.rebuild f = e := by
  induction e with
  | constant v => exact same _
  | column c v => exact same _
  | typeName t => exact same _
  | unary op e ih => rw [rebuild, ih, same]
  | postfixTest op e ih => rw [rebuild, ih, same]
  | arithmetic op l r ihl ihr => rw [rebuild, ihl, ihr, same]
  | comparison op l r ihl ihr => rw [rebuild, ihl, ihr, same]
  | connective op l r ihl ihr => rw [rebuild, ihl, ihr, same]
  | collate e collation ih => rw [rebuild, ih, same]
  | cast e target ih => rw [rebuild, ih, same]
  | between negated e low high ih ihLow ihHigh => rw [rebuild, ih, ihLow, ihHigh, same]
  | isIn negated e candidates ih ihs =>
      rw [rebuild_isIn, ih, List.map_congr_left ihs, List.map_id', same]
  | sortTerm term ih =>
      cases term
      rw [rebuild, ih, same]
  | join clause ih =>
      cases clause
      rw [rebuild, ih, same]
  | existsRow negated query ih => rw [rebuild_existsRow, rebuildSelect_eq_self ih, same]
  | subquery query expected ihs ih => rw [rebuild_subquery, rebuildSelect_eq_self ihs, ih, same]
  | call name arguments ih => rw [rebuild_call, List.map_congr_left ih, List.map_id', same]

end Expr

end PivotOracle
