import PivotOracle.Prediction

/-!
# Trees of expressions

Expressions nest in each other through lists, statements and clauses. Here is one induction over all of
them, and what stands in a tree.

* `Expr.induction` — a property of expressions holds of all where each kind of expression inherits it
  from its parts.
* `Expr.parts`, `Expr.induction_parts` — the expressions right below one, and induction by them.
* `Expr.Within`, `Expr.EvaluatedIn` — an expression stands somewhere in another, however deep, and is
  evaluated for its value.
* `Expr.Holds` — a text is the value of a constant or a column somewhere in an expression.
* `Expr.WellFormed` — every call in an expression is one that the dialect has, no type stands where a
  value is wanted, and no column is declared to hold null alone.
* `Expr.OwnFault` — the faults that an expression brings about itself.
* `Expr.predict_eq_value_iff`, `Expr.predict_eq_discarded_iff`, `Expr.predict_eq_error_iff` — a
  prediction is the outcome of an evaluation.
-/

namespace PivotOracle

/-- The expressions of a statement: its columns, conditions and sort terms. -/
def Select.parts (query : Select Expr) : List Expr :=
  query.columns ++ query.joins.map (·.condition) ++ query.filter.toList
    ++ query.orderBy.map (·.expression)

theorem Select.condition_mem_parts {query : Select Expr} {clause : JoinClause Expr}
    (mem : clause ∈ query.joins) : clause.condition ∈ query.parts := by
  simp only [Select.parts, List.mem_append, List.mem_map]
  exact .inl (.inl (.inr ⟨clause, mem, rfl⟩))

theorem Select.filter_mem_parts {query : Select Expr} {e : Expr} (mem : e ∈ query.filter) :
    e ∈ query.parts := by
  simp only [Select.parts, List.mem_append, Option.mem_toList]
  exact .inl (.inr mem)

namespace Expr

/-- Induction over expressions. What holds of all expressions of a statement, or of all arguments of a
call, is at hand for the expression that they stand in. -/
@[induction_eliminator]
theorem induction {motive : Expr → Prop}
    (constant : ∀ v, motive (.constant v))
    (column : ∀ c v, motive (.column c v))
    (unary : ∀ op e, motive e → motive (.unary op e))
    (postfixTest : ∀ op e, motive e → motive (.postfixTest op e))
    (arithmetic : ∀ op l r, motive l → motive r → motive (.arithmetic op l r))
    (comparison : ∀ op l r, motive l → motive r → motive (.comparison op l r))
    (connective : ∀ op l r, motive l → motive r → motive (.connective op l r))
    (collate : ∀ e collation, motive e → motive (.collate e collation))
    (typeName : ∀ t, motive (.typeName t))
    (cast : ∀ e target, motive e → motive (.cast e target))
    (between : ∀ negated e low high, motive e → motive low → motive high →
      motive (.between negated e low high))
    (isIn : ∀ negated e candidates, motive e → (∀ c ∈ candidates, motive c) →
      motive (.isIn negated e candidates))
    (sortTerm : ∀ term : SortTerm Expr, motive term.expression → motive (.sortTerm term))
    (join : ∀ clause : JoinClause Expr, motive clause.condition → motive (.join clause))
    (existsRow : ∀ negated query, (∀ e ∈ query.parts, motive e) → motive (.existsRow negated query))
    (subquery : ∀ query expected, (∀ e ∈ query.parts, motive e) → motive expected →
      motive (.subquery query expected))
    (call : ∀ f arguments, (∀ a ∈ arguments, motive a) → motive (.call f arguments))
    (e : Expr) : motive e :=
  -- The recursor has a motive for every type that expressions nest through: that it holds of all expressions inside.
  @Expr.rec motive
    (fun es => ∀ e ∈ es, motive e)
    (fun term => motive term.expression)
    (fun clause => motive clause.condition)
    (fun query => ∀ e ∈ query.parts, motive e)
    (fun joins => ∀ clause ∈ joins, motive clause.condition)
    (fun filter => ∀ e ∈ filter, motive e)
    (fun terms => ∀ term ∈ terms, motive term.expression)
    constant column unary postfixTest arithmetic comparison connective collate typeName cast
    between isIn sortTerm join existsRow subquery call
    (by simp)
    (fun _ _ head tail => List.forall_mem_cons.mpr ⟨head, tail⟩)
    (fun _ _ expression => expression)
    (fun _ _ _ condition => condition)
    (fun _ _ _ _ _ _ columns joins filter terms => by
      intro e mem
      simp only [Select.parts, List.mem_append, List.mem_map, Option.mem_toList] at mem
      rcases mem with ((mem | ⟨clause, mem, rfl⟩) | mem) | ⟨term, mem, rfl⟩
      · exact columns e mem
      · exact joins clause mem
      · exact filter e mem
      · exact terms term mem)
    (by simp)
    (fun _ _ head tail => List.forall_mem_cons.mpr ⟨head, tail⟩)
    (by simp)
    (fun _ condition => by simpa using condition)
    (by simp)
    (fun _ _ head tail => List.forall_mem_cons.mpr ⟨head, tail⟩)
    e

/-! ### What stands in a tree -/

/-- The expressions right below an expression, evaluated or not. -/
def parts : Expr → List Expr
  | .constant _ | .column _ _ | .typeName _ => []
  | .unary _ e | .postfixTest _ e | .collate e _ | .cast e _ => [e]
  | .arithmetic _ l r | .comparison _ l r | .connective _ l r => [l, r]
  | .between _ e low high => [e, low, high]
  | .isIn _ e candidates => e :: candidates
  | .sortTerm term => [term.expression]
  | .join clause => [clause.condition]
  | .existsRow _ query => query.parts
  | .subquery query expected => expected :: query.parts
  | .call _ arguments => arguments

/-- Induction over expressions by what stands right below them. -/
theorem induction_parts {P : Expr → Prop} (step : ∀ e : Expr, (∀ p ∈ e.parts, P p) → P e)
    (e : Expr) : P e := by
  induction e with
  | constant v => exact step _ nofun
  | column c v => exact step _ nofun
  | typeName t => exact step _ nofun
  | unary op e ih => exact step _ (by simpa [parts] using ih)
  | postfixTest op e ih => exact step _ (by simpa [parts] using ih)
  | collate e collation ih => exact step _ (by simpa [parts] using ih)
  | cast e target ih => exact step _ (by simpa [parts] using ih)
  | arithmetic op l r ihl ihr => exact step _ (by simpa [parts] using ⟨ihl, ihr⟩)
  | comparison op l r ihl ihr => exact step _ (by simpa [parts] using ⟨ihl, ihr⟩)
  | connective op l r ihl ihr => exact step _ (by simpa [parts] using ⟨ihl, ihr⟩)
  | between negated e low high ih ihLow ihHigh =>
      exact step _ (by simpa [parts] using ⟨ih, ihLow, ihHigh⟩)
  | isIn negated e candidates ih ihs => exact step _ (List.forall_mem_cons.mpr ⟨ih, ihs⟩)
  | sortTerm term ih => exact step _ (by simpa [parts] using ih)
  | join clause ih => exact step _ (by simpa [parts] using ih)
  | existsRow negated query ih => exact step _ ih
  | subquery query expected ihs ih => exact step _ (List.forall_mem_cons.mpr ⟨ih, ihs⟩)
  | call f arguments ih => exact step _ ih

/-- An expression stands in another one: it is that one, or stands in one of its parts. -/
inductive Within : Expr → Expr → Prop where
  | self (e : Expr) : Within e e
  | part {n p e : Expr} : p ∈ e.parts → Within n p → Within n e

/-- What stands in an expression is the expression itself, or stands in one of its parts. -/
theorem within_iff {n e : Expr} : n.Within e ↔ n = e ∨ ∃ p ∈ e.parts, n.Within p := by
  constructor
  · intro within
    cases within with
    | self => exact .inl rfl
    | part mem inner => exact .inr ⟨_, mem, inner⟩
  · rintro (rfl | ⟨p, mem, inner⟩)
    · exact .self n
    · exact .part mem inner

/-- A property of all that stands in an expression is one of the expression and of all that stands
in its parts. -/
theorem forall_within_iff {P : Expr → Prop} {e : Expr} :
    (∀ n, n.Within e → P n) ↔ P e ∧ ∀ p ∈ e.parts, ∀ n, n.Within p → P n := by
  constructor
  · intro h
    exact ⟨h e (.self e), fun p mem n inner => h n (.part mem inner)⟩
  · rintro ⟨top, below⟩ n within
    rcases within_iff.mp within with rfl | ⟨p, mem, inner⟩
    · exact top
    · exact below p mem n inner

/-- The parts of an expression that are evaluated for its value. -/
def evaluatedParts : Expr → List Expr
  | .existsRow _ query => query.joins.map (·.condition) ++ query.filter.toList
  | .subquery _ expected => [expected]
  | e => e.parts

theorem mem_parts_of_mem_evaluatedParts {p e : Expr} (mem : p ∈ e.evaluatedParts) : p ∈ e.parts := by
  cases e with
  | existsRow negated query =>
      rcases List.mem_append.mp mem with mem | mem
      · obtain ⟨clause, joined, rfl⟩ := List.mem_map.mp mem
        exact Select.condition_mem_parts joined
      · exact Select.filter_mem_parts (Option.mem_toList.mp mem)
  | subquery query expected => exact List.mem_cons.mpr (.inl (List.mem_singleton.mp mem))
  | _ => exact mem

/-- An expression stands in another one where it is evaluated for its value. -/
inductive EvaluatedIn : Expr → Expr → Prop where
  | self (e : Expr) : EvaluatedIn e e
  | part {n p e : Expr} : p ∈ e.evaluatedParts → EvaluatedIn n p → EvaluatedIn n e

/-- A property of all that is evaluated in an expression is one of the expression and of all that is
evaluated in its parts. -/
theorem forall_evaluatedIn_iff {P : Expr → Prop} {e : Expr} :
    (∀ n, n.EvaluatedIn e → P n) ↔
      P e ∧ ∀ p ∈ e.evaluatedParts, ∀ n, n.EvaluatedIn p → P n := by
  constructor
  · intro h
    exact ⟨h e (.self e), fun p mem n inner => h n (.part mem inner)⟩
  · rintro ⟨top, below⟩ n evaluated
    cases evaluated with
    | self => exact top
    | part mem inner => exact below _ mem n inner

theorem EvaluatedIn.within {n e : Expr} (evaluated : n.EvaluatedIn e) : n.Within e := by
  induction evaluated with
  | self => exact .self _
  | part mem _ ih => exact .part (mem_parts_of_mem_evaluatedParts mem) ih

theorem EvaluatedIn.trans {n m e : Expr} (inner : n.EvaluatedIn m) (outer : m.EvaluatedIn e) :
    n.EvaluatedIn e := by
  induction outer with
  | self => exact inner
  | part mem _ ih => exact .part mem ih

/-- The value that an expression carries itself, if it is a constant or a column. -/
def stored? : Expr → Option Scalar
  | .constant v | .column _ v => some v
  | _ => none

/-- A text is the value of a constant or a column that stands in an expression. -/
def Holds (t : Text) (e : Expr) : Prop := ∃ n : Expr, n.Within e ∧ n.stored? = some (.text t)

theorem Holds.part {t : Text} {p e : Expr} (mem : p ∈ e.parts) (h : Holds t p) : Holds t e := by
  obtain ⟨n, inner, stored⟩ := h
  exact ⟨n, .part mem inner, stored⟩

/-- What holds a text carries it itself or holds it in a part. -/
theorem holds_iff {t : Text} {e : Expr} :
    Holds t e ↔ e.stored? = some (.text t) ∨ ∃ p ∈ e.parts, Holds t p := by
  constructor
  · rintro ⟨n, within, stored⟩
    rcases within_iff.mp within with rfl | ⟨p, mem, inner⟩
    · exact .inl stored
    · exact .inr ⟨p, mem, n, inner, stored⟩
  · rintro (stored | ⟨p, mem, held⟩)
    · exact ⟨e, .self e, stored⟩
    · exact held.part mem

theorem holds_constant_iff {t : Text} {v : Scalar} : Holds t (.constant v) ↔ v = .text t := by
  constructor
  · intro held
    rcases holds_iff.mp held with stored | ⟨p, mem, _⟩
    · exact Option.some.inj stored
    · cases mem
  · rintro rfl
    exact holds_iff.mpr (.inl rfl)

/-- A single expression is proper: a call is of a function that the dialect has, with as many
arguments as it takes; a type stands in casts alone; no column is declared to hold null alone. -/
def Proper (d : Dialect) : Expr → Prop
  | .call f arguments => ∃ definition, definitionOf d f = .ok definition ∧
      definition.checkCount arguments.length = .ok ()
  | .typeName _ => False
  | .column c _ => c.datatype ≠ .null
  | _ => True

/-- All that stands in an expression is proper. -/
def WellFormed (d : Dialect) (e : Expr) : Prop := ∀ n : Expr, n.Within e → n.Proper d

theorem wellFormed_iff {d : Dialect} {e : Expr} :
    e.WellFormed d ↔ e.Proper d ∧ ∀ p ∈ e.parts, p.WellFormed d :=
  forall_within_iff

/-- The faults that an expression brings about itself, whatever its parts are: a type has no value; a
call may be of a function that the dialect lacks, or have a wrong number of arguments; and a column that
is declared to hold null alone leaves the functions that it is an argument of without a type. -/
inductive OwnFault (d : Dialect) : Expr → Fault → Prop where
  | typeName (t : CastTarget) : OwnFault d (.typeName t) (.typeHasNoValue t)
  | lacking {f : FunctionName} {arguments : List Expr} {g : Fault}
      (lacking : definitionOf d f = .error (.fault g)) : OwnFault d (.call f arguments) g
  | argumentCount {f : FunctionName} {arguments : List Expr} {definition : FunctionDefinition}
      {g : Fault} (found : definitionOf d f = .ok definition)
      (refused : definition.checkCount arguments.length = .error (.fault g)) :
      OwnFault d (.call f arguments) g
  | untyped {c : Column} (nullType : c.datatype = .null) (v w : Scalar) (count : Nat) :
      OwnFault d (.column c v) (.noCommonType w count)

/-- What is proper brings about no fault. -/
theorem Proper.no_ownFault {d : Dialect} {e : Expr} (proper : e.Proper d) (g : Fault) :
    ¬ e.OwnFault d g := by
  intro own
  cases own with
  | typeName t => exact proper
  | lacking lacking =>
      obtain ⟨definition, found, _⟩ := proper
      rw [found] at lacking
      cases lacking
  | argumentCount found refused =>
      obtain ⟨definition, found', counted⟩ := proper
      rw [found] at found'
      cases found'
      rw [counted] at refused
      cases refused
  | untyped nullType => exact proper nullType

/-! ### Evaluation of operators, statements and lists -/

section Operands

variable {d : Dialect} {e l r : Expr} {v w u : Scalar}

theorem evaluate_comparison (left : l.evaluate d = .ok v) (right : r.evaluate d = .ok w)
    (op : ComparisonOperator) :
    (comparison op l r).evaluate d =
      op.apply d (l.carriesAffinity || r.carriesAffinity) (l.isCollated || r.isCollated) v w := by
  rw [evaluate, left, right]
  rfl

theorem evaluate_between (subject : e.evaluate d = .ok v) (lower : l.evaluate d = .ok w)
    (upper : r.evaluate d = .ok u) (negated : Bool) :
    (between negated e l r).evaluate d = PivotOracle.between d negated v w u := by
  rw [evaluate, subject, lower, upper]
  rfl

theorem evaluate_isIn (subject : e.evaluate d = .ok v) {candidates : List Expr} {values : List Scalar}
    (evaluated : evaluateAll d candidates = .ok values) (negated : Bool) :
    (isIn negated e candidates).evaluate d = PivotOracle.isIn d negated v values := by
  rw [evaluate, subject, evaluated]
  rfl

end Operands

theorem evaluateAll_append (d : Dialect) (first second : List Expr) :
    evaluateAll d (first ++ second) =
      (do return (← evaluateAll d first) ++ (← evaluateAll d second)) := by
  induction first with
  | nil =>
      change evaluateAll d second = (do return [] ++ (← evaluateAll d second))
      cases evaluateAll d second <;> rfl
  | cons e first ih => simp [evaluateAll, ih]

theorem evaluate_existsRow (d : Dialect) (negated : Bool) (query : Select Expr) :
    (Expr.existsRow negated query).evaluate d = (do
      if ← query.keepsPivot d then return .ofBool (!negated)
      else throw (.discard .pivotFiltered)) := by
  cases query
  rfl

theorem evaluate_sortTerm (d : Dialect) (term : SortTerm Expr) :
    (Expr.sortTerm term).evaluate d = term.expression.evaluate d := by
  cases term
  rfl

theorem evaluate_join (d : Dialect) (clause : JoinClause Expr) :
    (Expr.join clause).evaluate d = clause.condition.evaluate d := by
  cases clause
  rfl

theorem joinsKeepPivot_cons (d : Dialect) (clause : JoinClause Expr) (rest : List (JoinClause Expr)) :
    joinsKeepPivot d (clause :: rest) =
      bothHold (isSurelyTrue d (clause.condition.evaluate d)) (joinsKeepPivot d rest) := by
  cases clause
  rfl

/-! ### Predictions -/

section Predictions

variable {d : Dialect} {e : Expr}

/-- What is predicted as a value has this value. -/
theorem predict_eq_value_iff {v : Scalar} : e.predict d = .ok (.value v) ↔ e.evaluate d = .ok v := by
  unfold predict
  constructor
  · intro predicted
    split at predicted
    · rename_i w value
      cases predicted
      exact value
    · cases predicted
    · cases predicted
  · intro value
    rw [value]

/-- What is predicted to be given up is discarded. -/
theorem predict_eq_discarded_iff {reason : Discard} :
    e.predict d = .ok (.discarded reason) ↔ e.evaluate d = .error (.discard reason) := by
  unfold predict
  constructor
  · intro predicted
    split at predicted
    · cases predicted
    · rename_i discarded
      cases predicted
      exact discarded
    · cases predicted
  · intro discarded
    rw [discarded]

/-- Where an evaluation fails otherwise than by a discard, so does the prediction. -/
theorem predict_eq_error_iff {f : Failure} :
    e.predict d = .error f ↔ e.evaluate d = .error f ∧ ∀ reason, f ≠ .discard reason := by
  unfold predict
  cases outcome : e.evaluate d with
  | ok v => simp
  | error g =>
      constructor
      · intro failed
        cases g <;> cases failed <;> simp
      · rintro ⟨failed, notDiscard⟩
        cases failed
        cases f with
        | discard reason => exact absurd rfl (notDiscard reason)
        | _ => rfl

end Predictions

end Expr

end PivotOracle
