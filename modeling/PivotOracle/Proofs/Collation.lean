import PivotOracle.Proofs.Evaluation

/-!
# Named collations

Texts whose collation an expression names are not compared: the order that the collation gives them is
not known. A comparison sees to that. Tests of a range or of membership compare as well, but do not look
at collations; they have the outcome that they would have without them.

* `ComparisonOperator.apply_collated`, `ComparisonOperator.apply_text` — a comparison where an operand
  names its collation, and one of two texts where none does.
* `Expr.bare`, `Expr.uncollated` — an operand without the collation that it names, and a comparison or a
  test without those of its operands.
* `Expr.Compares` — an evaluation comes to compare the values of two operands.
* `Expr.predict_of_collated` — what is predicted where it compares texts of a named collation.
-/

namespace PivotOracle

/-! ### Comparisons of texts -/

section Texts

variable {d : Dialect} {affinity : Bool}

/-- Naming a collation matters between two texts alone, which are not compared then. -/
theorem ComparisonOperator.apply_collated (op : ComparisonOperator) (a b : Scalar) :
    op.apply d affinity true a b =
      if a.isText && b.isText then .error (.discard (.explicitCollation a b))
      else op.apply d affinity false a b := by
  cases a <;> cases b <;> rfl

/-- Where no collation is named, two texts compare by the order of the dialect. -/
theorem ComparisonOperator.apply_text (op : ComparisonOperator) (a b : Text) :
    op.apply d affinity false (.text a) (.text b) =
      (do return .ofBool (op.holds (← compareText d a b))) :=
  rfl

/-- An order of texts that is not certain is a discard. -/
theorem compareText_eq_error {a b : Text} {f : Failure} (failed : compareText d a b = .error f) :
    f = .discard (.collation (.text a) (.text b)) := by
  cases d with
  | sqlite => cases failed
  | mysql =>
      unfold compareText at failed
      dsimp only at failed
      split at failed
      · cases failed
      · cases failed
        rfl

theorem ComparisonOperator.apply_text_eq_error (op : ComparisonOperator) {a b : Text} {f : Failure}
    (failed : compareText d a b = .error f) :
    op.apply d affinity false (.text a) (.text b) =
      .error (.discard (.collation (.text a) (.text b))) := by
  rw [op.apply_text, failed, compareText_eq_error failed]
  rfl

end Texts

/-! ### Tests of membership -/

/-- A candidate that a test of membership goes past: it is null, or not the value that is looked for. -/
def PassesBy (d : Dialect) (v w : Scalar) : Prop :=
  ComparisonOperator.eq.apply d true false v w = .ok .null ∨
    ComparisonOperator.eq.apply d true false v w = .ok (.ofBool false)

/-- Candidates that are passed by leave the outcome to those that follow. -/
theorem isAmong_append {d : Dialect} {v : Scalar} {passed : List Scalar}
    (pass : ∀ w ∈ passed, PassesBy d v w) (negated sawNull : Bool) (rest : List Scalar) :
    ∃ sawNull', isAmong d negated v sawNull (passed ++ rest) = isAmong d negated v sawNull' rest := by
  induction passed generalizing sawNull with
  | nil => exact ⟨sawNull, rfl⟩
  | cons w passed ih =>
      obtain ⟨here, below⟩ := List.forall_mem_cons.mp pass
      rcases here with null | different
      · obtain ⟨sawNull', same⟩ := ih below true
        refine ⟨sawNull', ?_⟩
        rw [List.cons_append, isAmong, null]
        exact same
      · obtain ⟨sawNull', same⟩ := ih below sawNull
        refine ⟨sawNull', ?_⟩
        rw [List.cons_append, isAmong, different]
        exact same

namespace Expr

variable {d : Dialect}

/-! ### Operands without their collations -/

/-- An expression without the collation that it names. -/
def bare : Expr → Expr
  | .collate e _ => e.bare
  | e => e

@[simp] theorem evaluate_bare (e : Expr) : e.bare.evaluate d = e.evaluate d := by
  fun_induction bare e with
  | case1 e collation ih => rw [ih, evaluate]
  | case2 => rfl

/-- A comparison, or a test of a range or of membership, without the collations that its operands name. -/
def uncollated : Expr → Expr
  | .comparison op l r => .comparison op l.bare r.bare
  | .between negated e low high => .between negated e.bare low.bare high.bare
  | .isIn negated e candidates => .isIn negated e.bare (candidates.map bare)
  | e => e

theorem evaluateAll_map_bare (es : List Expr) : evaluateAll d (es.map bare) = evaluateAll d es := by
  induction es with
  | nil => rfl
  | cons e es ih => rw [List.map_cons, evaluateAll, evaluateAll, ih, evaluate_bare]

/-- Tests of a range do not look at collations. -/
theorem evaluate_uncollated_between (negated : Bool) (e low high : Expr) :
    (between negated e low high).uncollated.evaluate d = (between negated e low high).evaluate d := by
  simp only [uncollated, evaluate, evaluate_bare]

/-- Tests of membership do not look at collations. -/
theorem evaluate_uncollated_isIn (negated : Bool) (e : Expr) (candidates : List Expr) :
    (isIn negated e candidates).uncollated.evaluate d = (isIn negated e candidates).evaluate d := by
  simp only [uncollated, evaluate, evaluate_bare, evaluateAll_map_bare]

/-! ### Comparisons that are made -/

/-- The evaluation of an expression comes to compare the values of two operands, if these have values. A
test of a range compares with the lower bound first. A test of membership compares with one candidate after
the other, until one is equal. -/
inductive Compares (d : Dialect) : Expr → Expr → Expr → Prop where
  | comparison (op : ComparisonOperator) (l r : Expr) : Compares d (.comparison op l r) l r
  | lower (negated : Bool) (e low : Expr) {high : Expr} {w : Scalar}
      (upper : high.evaluate d = .ok w) : Compares d (.between negated e low high) e low
  | upper (negated : Bool) {e low : Expr} (high : Expr) {v w above : Scalar}
      (subject : e.evaluate d = .ok v) (lower : low.evaluate d = .ok w)
      (compared : ComparisonOperator.ge.apply d true false v w = .ok above) :
      Compares d (.between negated e low high) e high
  | candidate (negated : Bool) {e : Expr} {before : List Expr} (c : Expr) {after : List Expr}
      {v : Scalar} (subject : e.evaluate d = .ok v)
      (earlier : ∀ p ∈ before, ∃ w, p.evaluate d = .ok w ∧ PassesBy d v w)
      (later : ∀ p ∈ after, ∃ w, p.evaluate d = .ok w) :
      Compares d (.isIn negated e (before ++ c :: after)) e c

section Compared

variable {n x y : Expr} {a b : Text}

/-- Expressions that each have a value of a kind have values of that kind in a list. -/
theorem evaluateAll_of_forall {es : List Expr} {P : Scalar → Prop}
    (each : ∀ e ∈ es, ∃ w, e.evaluate d = .ok w ∧ P w) :
    ∃ values, evaluateAll d es = .ok values ∧ ∀ w ∈ values, P w := by
  have yields : Yields (fun _ => False) (fun values => es.length = values.length ∧ ∀ v ∈ values, P v)
      (evaluateAll d es) := by
    refine evaluateAll_yields fun e mem => ?_
    obtain ⟨w, value, holds⟩ := each e mem
    rw [value]
    exact holds
  cases outcome : evaluateAll d es with
  | error f =>
      rw [outcome] at yields
      exact yields.elim
  | ok values =>
      rw [outcome] at yields
      exact ⟨values, rfl, yields.2⟩

/-- Where the order of two texts that are compared is not certain, the case is given up. -/
theorem Compares.discarded (compares : n.Compares d x y) (left : x.evaluate d = .ok (.text a))
    (right : y.evaluate d = .ok (.text b)) {f : Failure} (uncertain : compareText d a b = .error f) :
    ∃ reason, n.evaluate d = .error (.discard reason) := by
  -- By where the texts meet. What is compared before them has let the test go on, so that they meet indeed.
  cases compares with
  | comparison op =>
      rw [evaluate_comparison left right]
      cases x.isCollated || y.isCollated with
      | true => exact ⟨_, op.apply_collated (.text a) (.text b)⟩
      | false => exact ⟨_, op.apply_text_eq_error uncertain⟩
  | lower negated _ _ upper =>
      rw [evaluate_between left right upper]
      exact ⟨_, bind_eq_error.mpr (.inl (ComparisonOperator.apply_text_eq_error _ uncertain))⟩
  | upper negated _ subject lower compared =>
      rw [left] at subject
      cases subject
      rw [evaluate_between left lower right]
      have below : ComparisonOperator.le.apply d true false (.text a) (.text b) = _ :=
        ComparisonOperator.apply_text_eq_error .le uncertain
      exact ⟨_, bind_eq_error.mpr (.inr ⟨_, compared, bind_eq_error.mpr (.inl below)⟩)⟩
  | @candidate negated _ before _ after _ subject earlier later =>
      rw [left] at subject
      cases subject
      obtain ⟨passed, first, pass⟩ := evaluateAll_of_forall earlier
      obtain ⟨rest, last, _⟩ := evaluateAll_of_forall (P := fun _ => True)
        fun p mem => (later p mem).imp fun w value => ⟨value, trivial⟩
      have values : evaluateAll d (before ++ y :: after) = .ok (passed ++ .text b :: rest) := by
        rw [evaluateAll_append, first, evaluateAll, right, last]
        rfl
      obtain ⟨sawNull, same⟩ := isAmong_append pass negated false (.text b :: rest)
      rw [evaluate_isIn left values]
      refine ⟨.collation (.text a) (.text b), ?_⟩
      change isAmong d negated (.text a) false _ = _
      rw [same, isAmong, ComparisonOperator.apply_text_eq_error _ uncertain]
      rfl

/-- A comparison of texts of a named collation is given up. -/
theorem evaluate_comparison_of_collated (op : ComparisonOperator)
    (collated : x.isCollated = true ∨ y.isCollated = true) (left : x.evaluate d = .ok (.text a))
    (right : y.evaluate d = .ok (.text b)) :
    (comparison op x y).evaluate d = .error (.discard (.explicitCollation (.text a) (.text b))) := by
  have named : (x.isCollated || y.isCollated) = true := Bool.or_eq_true_iff.mpr collated
  rw [evaluate_comparison left right, named]
  exact op.apply_collated (.text a) (.text b)

/-- What compares and is no comparison does not look at collations. -/
theorem Compares.evaluate_uncollated (compares : n.Compares d x y)
    (test : ∀ op, n ≠ .comparison op x y) : n.uncollated.evaluate d = n.evaluate d := by
  cases compares with
  | comparison op => exact absurd rfl (test op)
  | lower => exact evaluate_uncollated_between ..
  | upper => exact evaluate_uncollated_between ..
  | candidate => exact evaluate_uncollated_isIn ..

/-- Where an evaluation comes to compare two texts of which one is of a named collation, the case is
given up exactly if it is a comparison that does so, or if it would be given up without the collations of its
operands. In a test of a range or of membership a collation has no say: only an order of the two texts that
is not certain anyway makes these give up. -/
theorem predict_of_collated (compares : n.Compares d x y)
    (collated : x.isCollated = true ∨ y.isCollated = true) (left : x.evaluate d = .ok (.text a))
    (right : y.evaluate d = .ok (.text b)) :
    ((∃ reason, n.predict d = .ok (.discarded reason)) ↔
      (∃ op, n = .comparison op x y) ∨
        ∃ reason, n.uncollated.predict d = .ok (.discarded reason)) ∧
    (∀ op, n = .comparison op x y →
      n.predict d = .ok (.discarded (.explicitCollation (.text a) (.text b)))) ∧
    ((∀ op, n ≠ .comparison op x y) → n.predict d = n.uncollated.predict d) ∧
    ∀ f, compareText d a b = .error f → ∃ reason, n.predict d = .ok (.discarded reason) := by
  have discarded : ∀ op, n = .comparison op x y →
      n.predict d = .ok (.discarded (.explicitCollation (.text a) (.text b))) := by
    rintro op rfl
    exact predict_eq_discarded_iff.mpr (evaluate_comparison_of_collated op collated left right)
  have ignored : (∀ op, n ≠ .comparison op x y) → n.predict d = n.uncollated.predict d := by
    intro test
    rw [predict, predict, compares.evaluate_uncollated test]
  refine ⟨?_, discarded, ignored, ?_⟩
  · by_cases isComparison : ∃ op, n = .comparison op x y
    · obtain ⟨op, same⟩ := isComparison
      exact ⟨fun _ => .inl ⟨op, same⟩, fun _ => ⟨_, discarded op same⟩⟩
    · rw [ignored (not_exists.mp isComparison)]
      exact ⟨.inr, fun h => h.resolve_left isComparison⟩
  · intro f uncertain
    obtain ⟨reason, outcome⟩ := compares.discarded left right uncertain
    exact ⟨reason, predict_eq_discarded_iff.mpr outcome⟩

/-- A test of membership in SQLite that passes by null and does not find a text under the collation that
it names, where that ignores case, is unknown as without the collation. -/
theorem predict_of_collated_membership :
    let x := Expr.collate (.constant (.text "b")) "NOCASE"
    let y := Expr.constant (.text "B")
    let n := Expr.isIn true x [.constant .null, y]
    n.Compares .sqlite x y ∧ x.isCollated = true ∧ n.predict .sqlite = n.uncollated.predict .sqlite ∧
      n.predict .sqlite = .ok (.value .null) := by
  intro x y n
  have compares : n.Compares .sqlite x y := by
    have passed : ∀ p ∈ [Expr.constant .null],
        ∃ w, p.evaluate .sqlite = .ok w ∧ PassesBy .sqlite (.text "b") w :=
      List.forall_mem_singleton.mpr ⟨.null, rfl, .inl rfl⟩
    exact .candidate true y rfl passed nofun
  obtain ⟨_, _, ignored, _⟩ := predict_of_collated compares (.inl rfl) rfl rfl
  exact ⟨compares, rfl, ignored nofun, rfl⟩

/-- Under a collation that ignores case, the text lies in the range and is equal to the candidate. A
comparison of the two texts is given up, while both tests are predicted to be false. -/
theorem predict_collated_range_false :
    let x := Expr.collate (.constant (.text "b")) "NOCASE"
    let y := Expr.constant (.text "B")
    (Expr.between false x y y).Compares .sqlite x y ∧ (Expr.isIn false x [y]).Compares .sqlite x y ∧
      x.isCollated = true ∧ x.evaluate .sqlite = .ok (.text "b") ∧ y.evaluate .sqlite = .ok (.text "B") ∧
      (Expr.comparison .eq x y).predict .sqlite =
        .ok (.discarded (.explicitCollation (.text "b") (.text "B"))) ∧
      (Expr.between false x y y).predict .sqlite = .ok (.value (.int 0)) ∧
      (Expr.isIn false x [y]).predict .sqlite = .ok (.value (.int 0)) := by
  intro x y
  have upper : y.evaluate .sqlite = .ok (.text "B") := rfl
  have candidate : (Expr.isIn false x ([] ++ y :: [])).Compares .sqlite x y :=
    .candidate false y rfl nofun nofun
  exact ⟨.lower false x y upper, candidate, rfl, rfl, upper, rfl, rfl, rfl⟩

end Compared

end Expr

end PivotOracle
