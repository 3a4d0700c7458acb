import PivotOracle.Proofs.Formulas

/-!
# Ranges

Whether a value lies between two others is the conjunction of two comparisons, with one difference. A
comparison that is written out knows whether its operands carry a column affinity; a test for a range takes
them to carry one. So the test gives up where SQLite may have to convert an operand, and there alone.

* `mayConvert` — two values of which a column affinity may convert one; `ComparisonOperator.apply_affinity`.
* `rangeTest` — a test for a range as two comparisons; `between_eq_rangeTest`.
* `Expr.predict_between_iff` — a test for a range and the comparisons that it stands for.
-/

namespace PivotOracle

/-! ### Affinities -/

/-- Whether SQLite may have to convert one of two values before it compares them, if a column affinity is
there: one of them is a text, and the other an integer. -/
def mayConvert (d : Dialect) (l r : Scalar) : Bool :=
  d = .sqlite && !l.isNull && !r.isNull && l.isText != r.isText

section Values

variable {d : Dialect} {l r v w low high : Scalar}

/-- A column affinity matters where it may convert an operand, and is passed over elsewhere. -/
theorem ComparisonOperator.apply_affinity (op : ComparisonOperator) (affinity : Bool) (l r : Scalar) :
    op.apply d affinity false l r =
      if affinity && mayConvert d l r then .error (.discard (.affinity l r))
      else op.apply d false false l r := by
  cases affinity with
  | false => rfl
  | true => cases d <;> cases l <;> cases r <;> rfl

/-- What a comparison finds, it finds with an affinity too, unless that may convert an operand. -/
theorem ComparisonOperator.apply_with_affinity {op : ComparisonOperator} {affinity : Bool}
    (value : op.apply d affinity false l r = .ok v) :
    op.apply d true false l r =
      if mayConvert d l r then .error (.discard (.affinity l r)) else .ok v := by
  rw [op.apply_affinity] at value ⊢
  split at value
  · cases value
  · rw [Bool.true_and, value]

/-- What a comparison finds with an affinity, it finds with any. -/
theorem ComparisonOperator.apply_of_affinity {op : ComparisonOperator} (affinity : Bool)
    (value : op.apply d true false l r = .ok v) :
    mayConvert d l r = false ∧ op.apply d affinity false l r = .ok v := by
  rw [op.apply_affinity, Bool.true_and] at value
  rw [op.apply_affinity]
  split at value
  · cases value
  · rename_i never
    have kept : mayConvert d l r = false := by simpa using never
    rw [kept, Bool.and_false]
    exact ⟨rfl, value⟩

/-! ### Tests for a range as comparisons -/

/-- A test for a range as two comparisons, of which each goes by its own affinity. -/
def rangeTest (d : Dialect) (negated lower upper : Bool) (v low high : Scalar) : Except Failure Scalar := do
  let above ← ComparisonOperator.ge.apply d lower false v low
  let below ← ComparisonOperator.le.apply d upper false v high
  let both ← Connective.and.apply d above below
  if negated then UnaryOperator.not.apply d both else .ok both

/-- To negate a truth value is to apply the operator of negation to it. -/
theorem negate_ofTruth (negated : Bool) (k : Kleene) :
    negate negated (.ofTruth k) =
      if negated then UnaryOperator.not.apply d (.ofTruth k) else .ok (.ofTruth k) := by
  cases negated with
  | false => rfl
  | true => rcases k with _ | _ | _ <;> rfl

/-- The operator for ranges takes both comparisons to have an affinity. -/
theorem between_eq_rangeTest (negated : Bool) (v low high : Scalar) :
    between d negated v low high = rangeTest d negated true true v low high := by
  simp only [between, rangeTest, Connective.apply, bind_assoc, pure_bind, negate_ofTruth (d := d)]

/-- A range that two comparisons tell is told by the operator, unless an affinity may convert an operand. -/
theorem between_of_rangeTest {negated lower upper : Bool}
    (value : rangeTest d negated lower upper v low high = .ok w) :
    between d negated v low high =
      if mayConvert d v low then .error (.discard (.affinity v low))
      else if mayConvert d v high then .error (.discard (.affinity v high))
      else .ok w := by
  obtain ⟨above, first, rest⟩ := bind_eq_ok.mp value
  obtain ⟨below, second, rest⟩ := bind_eq_ok.mp rest
  rw [between_eq_rangeTest, rangeTest, ComparisonOperator.apply_with_affinity first,
    ComparisonOperator.apply_with_affinity second]
  split
  · rfl
  · split
    · rfl
    · exact rest

/-- A range that the operator tells is told by two comparisons, whichever their affinities are. -/
theorem rangeTest_of_between {negated : Bool} (lower upper : Bool)
    (value : between d negated v low high = .ok w) :
    mayConvert d v low = false ∧ mayConvert d v high = false ∧
      rangeTest d negated lower upper v low high = .ok w := by
  rw [between_eq_rangeTest] at value
  obtain ⟨above, first, rest⟩ := bind_eq_ok.mp value
  obtain ⟨below, second, rest⟩ := bind_eq_ok.mp rest
  obtain ⟨keptLow, first⟩ := ComparisonOperator.apply_of_affinity lower first
  obtain ⟨keptHigh, second⟩ := ComparisonOperator.apply_of_affinity upper second
  refine ⟨keptLow, keptHigh, ?_⟩
  rw [rangeTest, first, second]
  exact rest

end Values

/-! ### Expressions -/

namespace Expr

variable {d : Dialect} {negated : Bool} {e low high : Expr} {v : Scalar}

/-- The comparisons that a test for a range stands for, in a conjunction, and in a negation if it is one. -/
def comparisons (negated : Bool) (e low high : Expr) : Expr :=
  let both := connective .and (comparison .ge e low) (comparison .le e high)
  if negated then unary .not both else both

/-- Two expressions have values of which a column affinity may convert one. -/
def MayConvert (d : Dialect) (l r : Expr) : Prop :=
  ∃ v w, l.evaluate d = .ok v ∧ r.evaluate d = .ok w ∧ mayConvert d v w = true

theorem mayConvert_iff {l r : Expr} {v w : Scalar} (left : l.evaluate d = .ok v)
    (right : r.evaluate d = .ok w) : MayConvert d l r ↔ mayConvert d v w = true := by
  simp [MayConvert, left, right]

/-- The comparisons are evaluated in order, and the lower one first. -/
theorem evaluate_comparisons (d : Dialect) (negated : Bool) (e low high : Expr) :
    (comparisons negated e low high).evaluate d = (do
      let above ← (comparison .ge e low).evaluate d
      let below ← (comparison .le e high).evaluate d
      let both ← Connective.and.apply d above below
      if negated then UnaryOperator.not.apply d both else .ok both) := by
  cases negated with
  | false =>
      change (do
        let above ← (comparison .ge e low).evaluate d
        let below ← (comparison .le e high).evaluate d
        Connective.and.apply d above below) = _
      exact congrArg _ (funext fun above => congrArg _ (funext fun below => (bind_pure _).symm))
  | true => simp only [comparisons, evaluate, bind_assoc, if_true]

/-- Where no operand names a collation, the comparisons have a value where all three operands have one, and
then that of a test for the range by the affinities that the operands carry. -/
theorem evaluate_comparisons_eq_ok_iff (subjectPlain : e.isCollated = false) (lowPlain : low.isCollated = false)
    (highPlain : high.isCollated = false) :
    (comparisons negated e low high).evaluate d = .ok v ↔
      ∃ x a b, e.evaluate d = .ok x ∧ low.evaluate d = .ok a ∧ high.evaluate d = .ok b ∧
        rangeTest d negated (e.carriesAffinity || low.carriesAffinity)
          (e.carriesAffinity || high.carriesAffinity) x a b = .ok v := by
  have evaluated {x a b : Scalar} (subject : e.evaluate d = .ok x) (lower : low.evaluate d = .ok a)
      (upper : high.evaluate d = .ok b) :
      (comparisons negated e low high).evaluate d =
        rangeTest d negated (e.carriesAffinity || low.carriesAffinity)
          (e.carriesAffinity || high.carriesAffinity) x a b := by
    rw [evaluate_comparisons, evaluate_comparison subject lower, evaluate_comparison subject upper,
      subjectPlain, lowPlain, highPlain]
    rfl
  constructor
  · intro value
    have parts := value
    rw [evaluate_comparisons] at parts
    obtain ⟨above, first, parts⟩ := bind_eq_ok.mp parts
    obtain ⟨below, second, -⟩ := bind_eq_ok.mp parts
    obtain ⟨x, subject, first⟩ := bind_eq_ok.mp first
    obtain ⟨a, lower, -⟩ := bind_eq_ok.mp first
    obtain ⟨_, -, second⟩ := bind_eq_ok.mp second
    obtain ⟨b, upper, -⟩ := bind_eq_ok.mp second
    exact ⟨x, a, b, subject, lower, upper, evaluated subject lower upper ▸ value⟩
  · rintro ⟨x, a, b, subject, lower, upper, value⟩
    rw [evaluated subject lower upper, value]

/-- A test for a range has a value where all three operands have values that it has one for. -/
theorem evaluate_between_eq_ok_iff :
    (between negated e low high).evaluate d = .ok v ↔
      ∃ x a b, e.evaluate d = .ok x ∧ low.evaluate d = .ok a ∧ high.evaluate d = .ok b ∧
        PivotOracle.between d negated x a b = .ok v := by
  simp only [evaluate, bind_eq_ok]
  constructor
  · rintro ⟨x, subject, a, lower, b, upper, value⟩
    exact ⟨x, a, b, subject, lower, upper, value⟩
  · rintro ⟨x, a, b, subject, lower, upper, value⟩
    exact ⟨x, subject, a, lower, b, upper, value⟩

/-- A test for a range, of operands that name no collation, is predicted as a value exactly where the
comparisons that it stands for are predicted as this value and no affinity may convert one of the values that
they compare. Where the comparisons have a value, the test has the same one or is discarded for an affinity; and
in MySQL it has the same one. -/
theorem predict_between_iff (d : Dialect) (negated : Bool) (e low high : Expr) (v : Scalar)
    (subjectPlain : e.isCollated = false) (lowPlain : low.isCollated = false)
    (highPlain : high.isCollated = false) :
    ((between negated e low high).predict d = .ok (.value v) ↔
      (comparisons negated e low high).predict d = .ok (.value v) ∧
        ¬ MayConvert d e low ∧ ¬ MayConvert d e high) ∧
    ((comparisons negated e low high).predict d = .ok (.value v) →
      (between negated e low high).predict d = .ok (.value v) ∨
      ∃ x a, (between negated e low high).predict d = .ok (.discarded (.affinity x a))) ∧
    (d = .mysql → (comparisons negated e low high).predict d = .ok (.value v) →
      (between negated e low high).predict d = .ok (.value v)) := by
  simp only [predict_eq_value_iff, predict_eq_discarded_iff,
    evaluate_comparisons_eq_ok_iff subjectPlain lowPlain highPlain]
  -- Once the comparisons have a value, only the affinities are left to decide what the test is predicted as.
  have tested {x a b : Scalar} (subject : e.evaluate d = .ok x) (lower : low.evaluate d = .ok a)
      (upper : high.evaluate d = .ok b)
      (value : rangeTest d negated (e.carriesAffinity || low.carriesAffinity)
        (e.carriesAffinity || high.carriesAffinity) x a b = .ok v) :=
    (evaluate_between subject lower upper negated).trans (between_of_rangeTest value)
  refine ⟨⟨fun value => ?_, ?_⟩, ?_, ?_⟩
  · obtain ⟨x, a, b, subject, lower, upper, value⟩ := evaluate_between_eq_ok_iff.mp value
    obtain ⟨keptLow, keptHigh, value⟩ := rangeTest_of_between (e.carriesAffinity || low.carriesAffinity)
      (e.carriesAffinity || high.carriesAffinity) value
    refine ⟨⟨x, a, b, subject, lower, upper, value⟩, ?_, ?_⟩
    · rw [mayConvert_iff subject lower, keptLow]
      exact Bool.false_ne_true
    · rw [mayConvert_iff subject upper, keptHigh]
      exact Bool.false_ne_true
  · rintro ⟨⟨x, a, b, subject, lower, upper, value⟩, keptLow, keptHigh⟩
    rw [mayConvert_iff subject lower] at keptLow
    rw [mayConvert_iff subject upper] at keptHigh
    rw [tested subject lower upper value, if_neg keptLow, if_neg keptHigh]
  · rintro ⟨x, a, b, subject, lower, upper, value⟩
    rw [tested subject lower upper value]
    split
    · exact .inr ⟨x, a, rfl⟩
    · split
      · exact .inr ⟨x, b, rfl⟩
      · exact .inl rfl
  · rintro rfl ⟨x, a, b, subject, lower, upper, value⟩
    rw [tested subject lower upper value]
    rfl

/-- A null bound leaves it to the other one: in MySQL, 5 is not between null and 3, as the comparisons say. In
SQLite a text is between an integer and a text by the comparisons, which the test does not tell. -/
theorem predict_between_iff_bounds :
    let five := constant (.int ⟨5, by decide⟩)
    let three := constant (.int ⟨3, by decide⟩)
    let letter (s : String) := constant (.text s)
    five.isCollated = false ∧ three.isCollated = false ∧
      (between true five (constant .null) three).predict .mysql = .ok (.value (.ofBool true)) ∧
      (comparisons false (letter "b") three (letter "c")).predict .sqlite = .ok (.value (.ofBool true)) ∧
      ∃ x a, (between false (letter "b") three (letter "c")).predict .sqlite =
        .ok (.discarded (.affinity x a)) := by
  intro five three letter
  have outside : (comparisons true five (constant .null) three).predict .mysql =
      .ok (.value (.ofBool true)) := rfl
  have inside : (comparisons false (letter "b") three (letter "c")).predict .sqlite =
      .ok (.value (.ofBool true)) := rfl
  refine ⟨rfl, rfl, ?_, inside, ?_⟩
  · exact (predict_between_iff .mysql true five (constant .null) three _ rfl rfl rfl).2.2 rfl outside
  · rcases (predict_between_iff .sqlite false (letter "b") three (letter "c") _ rfl rfl rfl).2.1 inside with
      told | given
    · cases told
    · exact given

end Expr

end PivotOracle
