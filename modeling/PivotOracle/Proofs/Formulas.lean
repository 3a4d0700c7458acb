import Mathlib.Tactic.Choose
import PivotOracle.Proofs.Outcome
import PivotOracle.Proofs.Tree

/-!
# Formulas

Negations and connectives nest into formulas over expressions that are anything else. The value of a
formula is the truth value that strong three-valued logic gives it from the truth values of its leaves, and
it has one only where each leaf has one: nothing that is known makes up for a leaf that is not.

* `Kleene.strong` — the strong extension of an operation on truth values to unknown operands.
* `Formula.kleene` — the truth value of a formula by the strong extensions of its connectives.
* `Expr.truth` — the truth value of an expression, or why it has none.
* `Formula.truth_of_leaves`, `Formula.leaves_of_truth`, `Formula.leaf_of_truth_eq_error` — a formula has a
  truth value exactly where its leaves have, and else fails as one of them.
* `Formula.predict_toExpr` — a formula is predicted as its truth value.
-/

namespace PivotOracle

/-! ### Strong three-valued logic -/

namespace Kleene

/-- The truth values that a known or unknown one may turn out to be. -/
def completions : Kleene → List Bool
  | some b => [b]
  | none => [true, false]

/-- The strong extension of an operation: its result, where that is the same whatever the unknown
operands turn out to be, and else unknown. -/
def strong (operation : Bool → Bool → Bool) (a b : Kleene) : Kleene :=
  let results := a.completions.flatMap fun x => b.completions.map (operation x)
  if results.all (· = true) then some true
  else if results.all (· = false) then some false
  else none

end Kleene

/-- What a connective computes of known truth values. -/
def Connective.classical : Connective → Bool → Bool → Bool
  | .and => Bool.and
  | .or => Bool.or
  | .xor => Bool.xor

/-- The connectives are the strong extensions of those on known truth values. -/
theorem Connective.connect_eq_strong (op : Connective) (a b : Kleene) :
    op.connect a b = Kleene.strong op.classical a b := by
  rcases a with _ | _ | _ <;> rcases b with _ | _ | _ <;> cases op <;> rfl

/-! ### Formulas -/

/-- A formula of negations and connectives over expressions. -/
inductive Formula where
  | leaf (e : Expr)
  | not (f : Formula)
  | connective (op : Connective) (l r : Formula)

namespace Formula

/-- The expression that a formula is. -/
def toExpr : Formula → Expr
  | .leaf e => e
  | .not f => .unary .not f.toExpr
  | .connective op l r => .connective op l.toExpr r.toExpr

/-- The leaves of a formula. -/
def leaves : Formula → List Expr
  | .leaf e => [e]
  | .not f => f.leaves
  | .connective _ l r => l.leaves ++ r.leaves

/-- Whether a formula is more than a leaf. -/
def isCompound : Formula → Bool
  | .leaf _ => false
  | _ => true

/-- The truth value of a formula in strong three-valued logic, by the truth values of its leaves. -/
def kleene (truth : Expr → Kleene) : Formula → Kleene
  | .leaf e => truth e
  | .not f => (f.kleene truth).map (!·)
  | .connective op l r => Kleene.strong op.classical (l.kleene truth) (r.kleene truth)

end Formula

/-! ### Truth values -/

/-- The truth value of an expression, or why it has none. -/
def Expr.truth (d : Dialect) (e : Expr) : Except Failure Kleene := do truthOf d (← e.evaluate d)

/-- A truth value is read again from its scalar. -/
@[simp] theorem truthOf_ofTruth (d : Dialect) (k : Kleene) : truthOf d (.ofTruth k) = .ok k := by
  rcases k with _ | _ | _ <;> rfl

section Truth

variable {d : Dialect}

theorem evaluate_not (e : Expr) :
    (Expr.unary .not e).evaluate d = (do return .ofTruth (Kleene.not (← e.truth d))) := by
  simp only [Expr.evaluate, Expr.truth, UnaryOperator.apply, bind_assoc]

theorem truth_not (e : Expr) :
    (Expr.unary .not e).truth d = (do return Kleene.not (← e.truth d)) := by
  simp only [Expr.truth, evaluate_not, bind_assoc, pure_bind, truthOf_ofTruth]
  rfl

/-- A connective has a value where both operands have a truth value, and then it is the scalar of what
it makes of these. -/
theorem evaluate_connective_eq_ok_iff {op : Connective} {l r : Expr} {v : Scalar} :
    (Expr.connective op l r).evaluate d = .ok v ↔
      ∃ a b, l.truth d = .ok a ∧ r.truth d = .ok b ∧ v = .ofTruth (op.connect a b) := by
  simp only [Expr.evaluate, Connective.apply, Expr.truth, bind_eq_ok]
  constructor
  · rintro ⟨x, left, y, right, a, readLeft, b, readRight, same⟩
    cases same
    exact ⟨a, b, ⟨x, left, readLeft⟩, ⟨y, right, readRight⟩, rfl⟩
  · rintro ⟨a, b, ⟨x, left, readLeft⟩, ⟨y, right, readRight⟩, rfl⟩
    exact ⟨x, left, y, right, a, readLeft, b, readRight, rfl⟩

theorem truth_connective_eq_ok_iff {op : Connective} {l r : Expr} {k : Kleene} :
    (Expr.connective op l r).truth d = .ok k ↔
      ∃ a b, l.truth d = .ok a ∧ r.truth d = .ok b ∧ k = op.connect a b := by
  rw [Expr.truth, bind_eq_ok]
  constructor
  · rintro ⟨v, value, read⟩
    obtain ⟨a, b, left, right, rfl⟩ := evaluate_connective_eq_ok_iff.mp value
    rw [truthOf_ofTruth] at read
    cases read
    exact ⟨a, b, left, right, rfl⟩
  · rintro ⟨a, b, left, right, rfl⟩
    exact ⟨_, evaluate_connective_eq_ok_iff.mpr ⟨a, b, left, right, rfl⟩, truthOf_ofTruth d _⟩

/-- A connective that fails does so as one of its operands, which has no truth value. -/
theorem truth_of_connective_eq_error {op : Connective} {l r : Expr} {g : Failure}
    (failed : (Expr.connective op l r).evaluate d = .error g) :
    l.truth d = .error g ∨ r.truth d = .error g := by
  simp only [Expr.evaluate, Connective.apply, bind_eq_error] at failed
  simp only [Expr.truth, bind_eq_error]
  rcases failed with left | ⟨x, left, right | ⟨y, right, readLeft | ⟨a, _, readRight | ⟨b, _, never⟩⟩⟩⟩
  · exact .inl (.inl left)
  · exact .inr (.inl right)
  · exact .inl (.inr ⟨x, left, readLeft⟩)
  · exact .inr (.inr ⟨y, right, readRight⟩)
  · cases never

end Truth

namespace Formula

variable {d : Dialect} {f : Formula}

/-- Where the leaves have truth values, a formula has the one that logic gives it. -/
theorem truth_of_leaves {truth : Expr → Kleene} (known : ∀ e ∈ f.leaves, e.truth d = .ok (truth e)) :
    f.toExpr.truth d = .ok (f.kleene truth) := by
  induction f with
  | leaf e => exact known e (List.mem_singleton.mpr rfl)
  | not f ih =>
      rw [toExpr, truth_not, ih known, kleene]
      cases f.kleene truth <;> rfl
  | connective op l r ihl ihr =>
      obtain ⟨left, right⟩ := List.forall_mem_append.mp known
      rw [kleene, ← Connective.connect_eq_strong]
      exact truth_connective_eq_ok_iff.mpr ⟨_, _, ihl left, ihr right, rfl⟩

/-- A formula has a truth value only where each of its leaves has one. -/
theorem leaves_of_truth {k : Kleene} (known : f.toExpr.truth d = .ok k) :
    ∀ e ∈ f.leaves, ∃ b, e.truth d = .ok b := by
  induction f generalizing k with
  | leaf e => exact List.forall_mem_singleton.mpr ⟨k, known⟩
  | not f ih =>
      rw [toExpr, truth_not] at known
      obtain ⟨b, inner, _⟩ := bind_eq_ok.mp known
      exact ih inner
  | connective op l r ihl ihr =>
      obtain ⟨a, b, left, right, _⟩ := truth_connective_eq_ok_iff.mp known
      exact List.forall_mem_append.mpr ⟨ihl left, ihr right⟩

/-- Where a formula has no truth value, it fails as one of its leaves does. -/
theorem leaf_of_truth_eq_error {g : Failure} (failed : f.toExpr.truth d = .error g) :
    ∃ e ∈ f.leaves, e.truth d = .error g := by
  induction f with
  | leaf e => exact ⟨e, List.mem_singleton.mpr rfl, failed⟩
  | not f ih =>
      rw [toExpr, truth_not] at failed
      rcases bind_eq_error.mp failed with inner | ⟨b, _, never⟩
      · exact ih inner
      · cases never
  | connective op l r ihl ihr =>
      have operand : l.toExpr.truth d = .error g ∨ r.toExpr.truth d = .error g := by
        rcases bind_eq_error.mp failed with failed | ⟨v, value, unread⟩
        · exact truth_of_connective_eq_error failed
        · obtain ⟨a, b, _, _, rfl⟩ := evaluate_connective_eq_ok_iff.mp value
          rw [truthOf_ofTruth] at unread
          cases unread
      rcases operand with left | right
      · obtain ⟨e, mem, leaf⟩ := ihl left
        exact ⟨e, List.mem_append_left _ mem, leaf⟩
      · obtain ⟨e, mem, leaf⟩ := ihr right
        exact ⟨e, List.mem_append_right _ mem, leaf⟩

/-- The value of a formula that is more than a leaf is the scalar of its truth value. -/
theorem evaluate_eq_truth (compound : f.isCompound = true) :
    f.toExpr.evaluate d = (do return .ofTruth (← f.toExpr.truth d)) := by
  have scalar : ∀ v, f.toExpr.evaluate d = .ok v → ∃ k, v = .ofTruth k := by
    intro v value
    cases f with
    | leaf e => cases compound
    | not f =>
        rw [toExpr, evaluate_not] at value
        obtain ⟨k, _, same⟩ := bind_eq_ok.mp value
        cases same
        exact ⟨_, rfl⟩
    | connective op l r =>
        obtain ⟨a, b, _, _, same⟩ := evaluate_connective_eq_ok_iff.mp value
        exact ⟨_, same⟩
  rw [Expr.truth]
  cases outcome : f.toExpr.evaluate d with
  | error g => rfl
  | ok v =>
      obtain ⟨k, rfl⟩ := scalar v outcome
      change _ = (do return Scalar.ofTruth (← truthOf d (.ofTruth k)))
      rw [truthOf_ofTruth]
      rfl

/-- A formula with a connective is predicted exactly where each of its leaves is predicted as a value with
a truth value, and then as the scalar of what strong three-valued logic makes of these. Where it has no
value it fails as one of its leaves does, so that no connective skips a leaf or gives up by itself. -/
theorem predict_toExpr (compound : f.isCompound = true) :
    ((∃ v, f.toExpr.predict d = .ok (.value v)) ↔
      ∀ e ∈ f.leaves, ∃ v b, e.predict d = .ok (.value v) ∧ truthOf d v = .ok b) ∧
    (∀ truth : Expr → Kleene,
      (∀ e ∈ f.leaves, ∃ v, e.predict d = .ok (.value v) ∧ truthOf d v = .ok (truth e)) →
      f.toExpr.predict d = .ok (.value (.ofTruth (f.kleene truth)))) ∧
    ∀ g, f.toExpr.evaluate d = .error g →
      ∃ e ∈ f.leaves, e.evaluate d = .error g ∨
        ∃ v, e.evaluate d = .ok v ∧ truthOf d v = .error g := by
  simp only [Expr.predict_eq_value_iff]
  -- All three parts come from the truth value of the formula, which is an outcome of those of its leaves.
  have value {truth : Expr → Kleene} (known : ∀ e ∈ f.leaves, e.truth d = .ok (truth e)) :
      f.toExpr.evaluate d = .ok (.ofTruth (f.kleene truth)) := by
    rw [evaluate_eq_truth compound, truth_of_leaves known]
    rfl
  refine ⟨?_, ?_, ?_⟩
  · constructor
    · rintro ⟨v, predicted⟩ e mem
      rw [evaluate_eq_truth compound] at predicted
      obtain ⟨k, whole, _⟩ := bind_eq_ok.mp predicted
      obtain ⟨b, leaf⟩ := leaves_of_truth whole e mem
      obtain ⟨w, evaluated, read⟩ := bind_eq_ok.mp leaf
      exact ⟨w, b, evaluated, read⟩
    · intro known
      have each : ∀ e ∈ f.leaves, ∃ b, e.truth d = .ok b := by
        intro e mem
        obtain ⟨v, b, evaluated, read⟩ := known e mem
        exact ⟨b, bind_eq_ok.mpr ⟨v, evaluated, read⟩⟩
      choose! truth known using each
      exact ⟨_, value known⟩
  · intro truth known
    exact value fun e mem => bind_eq_ok.mpr (known e mem)
  · intro g failed
    rw [evaluate_eq_truth compound] at failed
    rcases bind_eq_error.mp failed with unknown | ⟨k, _, never⟩
    · obtain ⟨e, mem, leaf⟩ := leaf_of_truth_eq_error unknown
      exact ⟨e, mem, bind_eq_error.mp leaf⟩
    · cases never

/-- In SQLite a text of letters is false, and so is its conjunction with null; the exclusive disjunction
of that with the negation of null is unknown. -/
theorem predict_toExpr_unknown :
    let letters := Expr.column ⟨"c", "t", .text⟩ (.text "abc")
    let null := Expr.constant .null
    let f : Formula := .connective .xor (.connective .and (.leaf letters) (.leaf null)) (.not (.leaf null))
    f.isCompound = true ∧ truthOf .sqlite (.text "abc") = .ok (some false) ∧
      f.toExpr.predict .sqlite = .ok (.value .null) := by
  intro letters null f
  let truth (e : Expr) : Kleene := if e.stored? = some .null then none else some false
  have read : truthOf .sqlite (.text "abc") = .ok (some false) := rfl
  have known : ∀ e ∈ f.leaves, ∃ v, e.predict .sqlite = .ok (.value v) ∧
      truthOf .sqlite v = .ok (truth e) := by
    intro e mem
    have cases : e = letters ∨ e = null := by simpa [f, leaves] using mem
    rcases cases with rfl | rfl
    · exact ⟨_, rfl, read⟩
    · exact ⟨_, rfl, rfl⟩
  exact ⟨rfl, read, (predict_toExpr rfl).2.1 truth known⟩

end Formula

end PivotOracle
