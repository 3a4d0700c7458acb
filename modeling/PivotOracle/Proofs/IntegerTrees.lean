import PivotOracle.Proofs.DialectAgreement
import PivotOracle.Proofs.Magnitude

/-!
# Trees of integer arithmetic

Sums, differences, products, negations and magnitudes of integers nest into trees that have an exact value among all
integers. Both dialects predict this value where the value of every subtree is a signed 64-bit integer, and discard the
case where one is not. No result wraps around, and none is predicted by way of a value out of range.

* `IntegerTree`, `IntegerTree.value` — trees over integers, and their exact values.
* `ArithmeticOperator.apply_int`, `UnaryOperator.apply_minus_int`, `Expr.evaluate_abs_exact` — what one operator makes
  of integers: the exact result, or a discard.
* `IntegerTree.Ends`, `IntegerTree.ends` — how the evaluation of a tree ends.
* `IntegerTree.predict_exact` — the prediction of a tree.
-/

namespace PivotOracle

/-! ### Trees -/

/-- Why a dialect gives up the magnitude of an integer. -/
def Dialect.absDiscard : Dialect → Int → Discard
  | .mysql, n => .absOutOfRange n
  | .sqlite, n => .absOverflow n

/-- A tree of arithmetic over integers. -/
inductive IntegerTree where
  | constant (n : Bigint)
  /-- A column that the pivot row has an integer in, whatever its declared type is. -/
  | column (c : Column) (n : Bigint)
  | arithmetic (op : ArithmeticOperator) (l r : IntegerTree)
  | minus (t : IntegerTree)
  | plus (t : IntegerTree)
  | abs (t : IntegerTree)

namespace IntegerTree

/-- The expression that a tree is. -/
def toExpr : IntegerTree → Expr
  | .constant n => .constant (.int n)
  | .column c n => .column c (.int n)
  | .arithmetic op l r => .arithmetic op l.toExpr r.toExpr
  | .minus t => .unary .minus t.toExpr
  | .plus t => .unary .plus t.toExpr
  | .abs t => .call .abs [t.toExpr]

/-- The exact value of a tree, in range or not. -/
def value : IntegerTree → Int
  | .constant n => n.val
  | .column _ n => n.val
  | .arithmetic .add l r => l.value + r.value
  | .arithmetic .subtract l r => l.value - r.value
  | .arithmetic .multiply l r => l.value * r.value
  | .minus t => -t.value
  | .plus t => t.value
  | .abs t => t.value.natAbs

/-- The subtrees of a tree, and the tree itself. -/
def subtrees : IntegerTree → List IntegerTree
  | .constant n => [.constant n]
  | .column c n => [.column c n]
  | .arithmetic op l r => .arithmetic op l r :: (l.subtrees ++ r.subtrees)
  | .minus t => .minus t :: t.subtrees
  | .plus t => .plus t :: t.subtrees
  | .abs t => .abs t :: t.subtrees

/-- Why a tree is discarded of which the value is out of range: a magnitude for what it is the magnitude of, and any
other tree for its value. -/
def overflow (d : Dialect) : IntegerTree → Discard
  | .abs t => d.absDiscard t.value
  | t => .outOfRange t.value

theorem value_arithmetic (op : ArithmeticOperator) (l r : IntegerTree) :
    (arithmetic op l r).value = op.compute l.value r.value := by
  cases op <;> rfl

end IntegerTree

/-! ### Operators on integers -/

/-- A result is an integer if that is a signed 64-bit one, and else a discard for a reason. -/
inductive ExactOrDiscarded (n : Int) (reason : Discard) : Except Failure Scalar → Prop where
  | exact (m : Bigint) (same : m.val = n) : ExactOrDiscarded n reason (.ok (.int m))
  | discarded (outOfRange : ¬ IsBigint n) : ExactOrDiscarded n reason (.error (.discard reason))

section Operators

variable {d : Dialect}

theorem bigintResult_exact (n : Int) : ExactOrDiscarded n (.outOfRange n) (bigintResult n) := by
  unfold bigintResult
  split
  · rename_i inRange
    rw [Scalar.ofInt_eq_ok inRange]
    exact .exact _ rfl
  · rename_i outOfRange
    exact .discarded outOfRange

/-- Operators take integers as they are, in both dialects. -/
theorem ArithmeticOperator.apply_int (op : ArithmeticOperator) (a b : Bigint) :
    op.apply d (.int a) (.int b) = bigintResult (op.compute a.val b.val) := by
  cases d <;> rfl

theorem UnaryOperator.apply_minus_int (n : Bigint) : minus.apply d (.int n) = bigintResult (-n.val) := by
  cases d <;> rfl

namespace Expr

variable {e : Expr}

/-- A magnitude fails as its argument does. -/
theorem evaluate_abs_of_error {f : Failure} (failed : e.evaluate d = .error f) :
    (call .abs [e]).evaluate d = .error f := by
  cases d <;> rw [evaluate_call rfl rfl, evaluateArguments, failed] <;> rfl

theorem evaluate_abs_of_int {n : Bigint} (value : e.evaluate d = .ok (.int n)) :
    (call .abs [e]).evaluate d =
      if n.val = minBigint then .error (.discard (d.absDiscard n.val)) else Scalar.ofInt n.val.natAbs := by
  cases d <;> rw [evaluate_call rfl rfl, evaluateArguments, value] <;> rfl

/-- The least integer is the only one of which the magnitude is out of range. -/
theorem evaluate_abs_exact {n : Bigint} (value : e.evaluate d = .ok (.int n)) :
    ExactOrDiscarded n.val.natAbs (d.absDiscard n.val) ((call .abs [e]).evaluate d) := by
  rw [evaluate_abs_of_int value]
  split
  · rename_i least
    refine .discarded ?_
    rw [least]
    decide
  · rename_i notLeast
    obtain ⟨m, magnitude⟩ := Scalar.ofInt_natAbs notLeast
    obtain ⟨_, found, same⟩ := Scalar.ofInt_eq_ok_iff.mp magnitude
    cases found
    rw [magnitude]
    exact .exact m same

end Expr

end Operators

/-! ### Evaluation of trees -/

namespace IntegerTree

/-- How the evaluation of a tree ends: with its exact value, where the values of all subtrees are in range, or with the
discard of a subtree of which the value is not. -/
inductive Ends (d : Dialect) (t : IntegerTree) : Except Failure Scalar → Prop where
  | value {n : Bigint} (exact : n.val = t.value) (inRange : ∀ s ∈ t.subtrees, IsBigint s.value) :
      Ends d t (.ok (.int n))
  | overflow {s : IntegerTree} (mem : s ∈ t.subtrees) (outOfRange : ¬ IsBigint s.value) :
      Ends d t (.error (.discard (s.overflow d)))

variable {d : Dialect} {t : IntegerTree}

/-- Where the parts of a tree have their exact values, so has the tree, or it is discarded itself. -/
theorem ends_of_parts {parts : List IntegerTree} (subtrees : t.subtrees = t :: parts)
    (inRange : ∀ s ∈ parts, IsBigint s.value) {x : Except Failure Scalar}
    (result : ExactOrDiscarded t.value (t.overflow d) x) : t.Ends d x := by
  cases result with
  | exact m same =>
      refine .value same ?_
      rw [subtrees]
      exact List.forall_mem_cons.mpr ⟨same ▸ m.inRange, inRange⟩
  | discarded outOfRange =>
      refine .overflow ?_ outOfRange
      rw [subtrees]
      exact List.mem_cons_self

theorem ends (d : Dialect) (t : IntegerTree) : t.Ends d (t.toExpr.evaluate d) := by
  -- By the tree. A part that overflows is a part of the whole; if none does, the operator is applied to exact values.
  induction t with
  | constant n => exact .value rfl (List.forall_mem_singleton.mpr n.inRange)
  | column c n => exact .value rfl (List.forall_mem_singleton.mpr n.inRange)
  | arithmetic op l r ihl ihr =>
      rw [toExpr, Expr.evaluate]
      generalize l.toExpr.evaluate d = left at ihl
      generalize r.toExpr.evaluate d = right at ihr
      cases ihl with
      | overflow mem outOfRange =>
          exact .overflow (List.mem_cons_of_mem _ (List.mem_append_left _ mem)) outOfRange
      | @value a exactL inRangeL =>
          cases ihr with
          | overflow mem outOfRange =>
              exact .overflow (List.mem_cons_of_mem _ (List.mem_append_right _ mem)) outOfRange
          | @value b exactR inRangeR =>
              have result := bigintResult_exact (op.compute a.val b.val)
              rw [← op.apply_int (d := d), exactL, exactR, ← value_arithmetic] at result
              exact ends_of_parts rfl (List.forall_mem_append.mpr ⟨inRangeL, inRangeR⟩) result
  | minus t ih =>
      rw [toExpr, Expr.evaluate]
      generalize t.toExpr.evaluate d = operand at ih
      cases ih with
      | overflow mem outOfRange => exact .overflow (List.mem_cons_of_mem _ mem) outOfRange
      | @value n exact inRange =>
          have result := bigintResult_exact (-n.val)
          rw [← UnaryOperator.apply_minus_int (d := d), exact] at result
          exact ends_of_parts rfl inRange result
  | plus t ih =>
      rw [toExpr, Expr.evaluate]
      generalize t.toExpr.evaluate d = operand at ih
      cases ih with
      | overflow mem outOfRange => exact .overflow (List.mem_cons_of_mem _ mem) outOfRange
      | @value n exact inRange => exact ends_of_parts rfl inRange (.exact n exact)
  | abs t ih =>
      rw [toExpr]
      generalize outcome : t.toExpr.evaluate d = operand at ih
      cases ih with
      | overflow mem outOfRange =>
          rw [Expr.evaluate_abs_of_error outcome]
          exact .overflow (List.mem_cons_of_mem _ mem) outOfRange
      | @value n exact inRange =>
          have result := Expr.evaluate_abs_exact outcome
          rw [exact] at result
          exact ends_of_parts rfl inRange result

/-- What is predicted of a tree of sums, differences, products, negations and magnitudes over integers, by constants or
columns, in either dialect: its exact value, where the exact value of every subtree is a signed 64-bit integer, and a
discard for a subtree of which the value is none, where there is one. -/
theorem predict_exact (d : Dialect) (t : IntegerTree) :
    ((∀ s ∈ t.subtrees, IsBigint s.value) →
      ∃ n : Bigint, n.val = t.value ∧ t.toExpr.predict d = .ok (.value (.int n))) ∧
    ((∃ s ∈ t.subtrees, ¬ IsBigint s.value) →
      ∃ s ∈ t.subtrees, ¬ IsBigint s.value ∧ t.toExpr.predict d = .ok (.discarded (s.overflow d))) := by
  simp only [Expr.predict_eq_value_iff, Expr.predict_eq_discarded_iff]
  have ends := t.ends d
  generalize t.toExpr.evaluate d = outcome at ends ⊢
  cases ends with
  | @value n exact inRange =>
      refine ⟨fun _ => ⟨n, exact, rfl⟩, ?_⟩
      rintro ⟨s, mem, outOfRange⟩
      exact absurd (inRange s mem) outOfRange
  | @overflow s mem outOfRange =>
      exact ⟨fun inRange => absurd (inRange s mem) outOfRange, fun _ => ⟨s, mem, outOfRange, rfl⟩⟩

/-- One less than the negation of the greatest integer is the least one. The product of that with minus one is out of
range, and so a sum of the two is discarded, though its exact value is zero. -/
theorem predict_exact_limits :
    let one := constant 1
    let least := arithmetic .subtract (minus (column ⟨"c", "t", .integer⟩ ⟨maxBigint, by decide⟩)) one
    let product := arithmetic .multiply least (minus one)
    let sum := arithmetic .add (plus product) least
    (∀ s ∈ least.subtrees, IsBigint s.value) ∧
      (∃ n : Bigint, n.val = minBigint ∧ least.toExpr.predict .mysql = .ok (.value (.int n))) ∧
      sum.value = 0 ∧ (∃ s ∈ sum.subtrees, ¬ IsBigint s.value) ∧
      ∃ s ∈ sum.subtrees, ¬ IsBigint s.value ∧ sum.toExpr.predict .sqlite = .ok (.discarded (s.overflow .sqlite)) := by
  intro one least product sum
  have inRange : ∀ s ∈ least.subtrees, IsBigint s.value := by decide
  have outOfRange : ∃ s ∈ sum.subtrees, ¬ IsBigint s.value := by decide
  exact ⟨inRange, (predict_exact .mysql least).1 inRange, rfl, outOfRange, (predict_exact .sqlite sum).2 outOfRange⟩

end IntegerTree

end PivotOracle
