import PivotOracle.Proofs.ComparisonLaws
import PivotOracle.Proofs.DialectAgreement
import PivotOracle.Proofs.Formulas
import PivotOracle.Proofs.NearestDouble
import PivotOracle.Proofs.SafeTexts

/-!
# Truth and zero

In MySQL a value is true where it is not zero, be it tested as a condition or compared with zero. The two come to
zero by different ways: a condition asks whether the significand of a double is zero, a comparison puts both sides on
one scale. They agree on every value, on null, and on every text that has no reading.

* `Scalar.truthOf_eq_compareValues` — the truth of a value that is not null, by its order to zero.
* `ComparisonOperator.ne_zero`, `ComparisonOperator.eq_zero` — comparisons with zero are truth and its negation.
* `Expr.truth_ne_zero` — so an expression has the truth value of its difference from zero.
* `Expr.predict_truth_tests` — whatever asks for the truth of an expression may ask for that difference.
-/

namespace PivotOracle

/-! ### Values and zero -/

/-- A double is zero where its significand is. -/
theorem Binary64.scaled_eq_zero_iff (x : Binary64) : x.scaled = 0 ↔ x.significand = 0 := by
  rw [← Int.natAbs_eq_zero, Binary64.scaled, natAbs_signed, Nat.mul_eq_zero]
  exact or_iff_left (Nat.ne_of_gt (twoTo_pos _))

/-- A double is equal to the integer zero where its significand is zero. -/
theorem Numeric.compare_zero_eq_eq_iff (x : Binary64) :
    (Numeric.double x).compare (.int 0) = .eq ↔ x.significand = 0 := by
  change Ord.compare x.scaled (Bigint.toDouble 0).scaled = .eq ↔ _
  have zero : (Bigint.toDouble 0).scaled = 0 := by decide +kernel
  rw [zero, Int.compare_eq_eq, x.scaled_eq_zero_iff]

section Values

variable {affinity collated : Bool} {v : Scalar}

/-- A value that is not null is true where it is not equal to zero, and has no truth value where it cannot be compared
with zero. -/
theorem Scalar.truthOf_eq_compareValues (affinity : Bool) (notNull : v.isNull = false) :
    truthOf .mysql v = (do return some ((← compareValues .mysql affinity v (.int 0)) ≠ .eq)) := by
  cases v with
  | null => cases notNull
  | int n =>
      change Except.ok (some (decide (n.val ≠ 0))) = .ok (some (decide (Ord.compare n.val 0 ≠ .eq)))
      simp only [ne_eq, Int.compare_eq_eq]
  | text t =>
      simp only [truthOf, Scalar.isTrue, compareValues, Scalar.numeric, bind_assoc, pure_bind]
      refine bind_congr fun x => ?_
      change Except.ok (some (decide (x.significand ≠ 0))) =
        .ok (some (decide ((Numeric.double x).compare (.int 0) ≠ .eq)))
      simp only [ne_eq, Numeric.compare_zero_eq_eq_iff]

namespace ComparisonOperator

/-- An operator on a value that is not null and zero goes by the order of the two, whatever else is told of them: no
collation has a say where one of them is an integer. -/
theorem apply_zero (op : ComparisonOperator) (notNull : v.isNull = false) :
    op.apply .mysql affinity collated v (.int 0) =
      (do return .ofBool (op.holds (← compareValues .mysql affinity v (.int 0)))) := by
  have noText : (collated && v.isText && (Scalar.int 0).isText) = false := Bool.and_false _
  rw [op.apply_of_notNull notNull rfl, compareOperands, noText]
  rfl

/-- That a value differs from zero is its truth value. -/
theorem ne_zero (affinity collated : Bool) (v : Scalar) :
    ne.apply .mysql affinity collated v (.int 0) = (do return .ofTruth (← truthOf .mysql v)) := by
  cases null : v.isNull with
  | true =>
      obtain rfl := Scalar.isNull_iff.mp null
      rfl
  | false =>
      rw [ne.apply_zero null, Scalar.truthOf_eq_compareValues affinity null, bind_assoc]
      rfl

/-- That a value is equal to zero is the negation of its truth value. -/
theorem eq_zero (affinity collated : Bool) (v : Scalar) :
    eq.apply .mysql affinity collated v (.int 0) = (do return .ofTruth (Kleene.not (← truthOf .mysql v))) := by
  cases null : v.isNull with
  | true =>
      obtain rfl := Scalar.isNull_iff.mp null
      rfl
  | false =>
      rw [eq.apply_zero null, Scalar.truthOf_eq_compareValues affinity null, bind_assoc]
      refine bind_congr fun o => ?_
      cases o <;> rfl

end ComparisonOperator

end Values

/-! ### Expressions and zero -/

namespace Expr

/-- The literal zero. -/
def zero : Expr := constant (.int 0)

/-- A comparison with zero compares the value of its operand. -/
theorem evaluate_comparison_zero (op : ComparisonOperator) (e : Expr) :
    (comparison op e zero).evaluate .mysql = (do
      op.apply .mysql (e.carriesAffinity || zero.carriesAffinity) (e.isCollated || zero.isCollated)
        (← e.evaluate .mysql) (.int 0)) := by
  rw [evaluate]
  rfl

/-- An expression differs from zero where it is true. -/
theorem evaluate_ne_zero (e : Expr) :
    (comparison .ne e zero).evaluate .mysql = (do return .ofTruth (← e.truth .mysql)) := by
  simp only [evaluate_comparison_zero, ComparisonOperator.ne_zero, truth, bind_assoc]

/-- An expression is equal to zero where it is not true. -/
theorem evaluate_eq_zero (e : Expr) :
    (comparison .eq e zero).evaluate .mysql = (do return .ofTruth (Kleene.not (← e.truth .mysql))) := by
  simp only [evaluate_comparison_zero, ComparisonOperator.eq_zero, truth, bind_assoc]

/-- An expression has the truth value of its difference from zero, or fails to have one for the same reason. -/
theorem truth_ne_zero (e : Expr) : (comparison .ne e zero).truth .mysql = e.truth .mysql := by
  rw [truth, evaluate_ne_zero, bind_assoc]
  simp only [pure_bind, truthOf_ofTruth]
  exact bind_pure _

/-! ### Questions of truth -/

/-- A postfix test asks for the truth of its operand, and for nothing else. -/
theorem evaluate_postfixTest (d : Dialect) (test : PostfixTest) (e : Expr) :
    (postfixTest test e).evaluate d = (do return .ofBool (test.holds (← e.truth d))) := by
  simp only [evaluate, PostfixTest.apply, truth, bind_assoc]

/-- A choice between two expressions that have values asks for the truth of the condition, and for nothing else of
it. -/
theorem evaluate_ifElse {a b : Expr} {v w : Scalar} (first : a.evaluate .mysql = .ok v)
    (second : b.evaluate .mysql = .ok w) (e : Expr) :
    (call .ifElse [e, a, b]).evaluate .mysql = (do
      castToCommonType (if (← e.truth .mysql) = some true then v else w)
        ((argumentTypes [a, b] [v, w]).map .ok)) := by
  rw [evaluate_call (f := .ifElse) rfl rfl, evaluateArguments_eq_evaluateAll]
  simp only [evaluateAll, first, second, truth, bind_assoc]
  refine bind_congr fun condition => ?_
  change (do castToCommonType (← branchOn .mysql condition v w) ((argumentTypes [a, b] [v, w]).map .ok)) = _
  simp only [branchOn, bind_assoc, pure_bind]

/-- In MySQL, the negation of an expression and its equality to zero have the same prediction; so have every postfix
test of it and that of its difference from zero; and so have the choices by the expression and by its difference from
zero, between expressions that are both predicted. The predictions are the same value, or discards for the same reason,
or the same failure. -/
theorem predict_truth_tests (e : Expr) :
    (unary .not e).predict .mysql = (comparison .eq e zero).predict .mysql ∧
    (∀ test, (postfixTest test e).predict .mysql = (postfixTest test (comparison .ne e zero)).predict .mysql) ∧
    ∀ a b v w, a.predict .mysql = .ok (.value v) → b.predict .mysql = .ok (.value w) →
      (call .ifElse [e, a, b]).predict .mysql = (call .ifElse [comparison .ne e zero, a, b]).predict .mysql := by
  refine ⟨?_, fun test => ?_, fun a b v w first second => ?_⟩
  · rw [predict, predict, evaluate_not, evaluate_eq_zero]
  · rw [predict, predict, evaluate_postfixTest, evaluate_postfixTest, truth_ne_zero]
  · have chosen := evaluate_ifElse (predict_eq_value_iff.mp first) (predict_eq_value_iff.mp second)
    rw [predict, predict, chosen, chosen, truth_ne_zero]

/-- A text that starts with a number below every double is not true: it is equal to zero, and a choice by its difference
from zero is the one by the text itself. -/
theorem predict_truth_tests_underflow :
    let e := constant (.text "1e-400x")
    let a := constant (.text "a")
    let b := constant (.int 1)
    a.predict .mysql = .ok (.value (.text "a")) ∧ b.predict .mysql = .ok (.value (.int 1)) ∧
      (comparison .eq e zero).predict .mysql = .ok (.value (.ofBool true)) ∧
      (postfixTest .isTrue (comparison .ne e zero)).predict .mysql = .ok (.value (.ofBool false)) ∧
      (call .ifElse [comparison .ne e zero, a, b]).predict .mysql = .ok (.value (.text "1")) := by
  intro e a b
  obtain ⟨negation, tests, choice⟩ := predict_truth_tests e
  have first : a.predict .mysql = .ok (.value (.text "a")) := rfl
  have second : b.predict .mysql = .ok (.value (.int 1)) := rfl
  rw [← negation, ← tests, ← choice a b _ _ first second]
  exact ⟨first, second, by decide +kernel, by decide +kernel, by decide +kernel⟩

end Expr

end PivotOracle
