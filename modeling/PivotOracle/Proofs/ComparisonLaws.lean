import Mathlib.Data.List.Basic
import PivotOracle.Proofs.Outcome
import PivotOracle.Proofs.TextOrder

/-!
# Laws of comparisons

Two values that are not null have one order, or none that is known, and all operators go by it. The order of
exchanged values is the opposite one, by whichever of the routes the two are compared: as texts, by type, as
integers or as doubles.

* `compareValues_opposite` — exchanged values have opposite orders.
* `compareOperands` — the order that a comparison goes by; `ComparisonOperator.apply_of_notNull`.
* `ComparisonOperator.apply_mirror` — an operator on two operands, and its mirror image on exchanged ones.
* `ComparisonOperator.apply_coherent` — what the operators make of two operands belongs together.
-/

namespace PivotOracle

/-! ### Exchanged values -/

/-- Two comparisons find opposite orders, or fail alike. -/
def Opposite (x y : Except Failure Ordering) : Prop := SameOutcome (do return (← x).swap) y

theorem opposite_ok {o p : Ordering} (swapped : o.swap = p) : Opposite (.ok o) (.ok p) := by
  rw [← swapped]
  exact .refl _

theorem Opposite.symm {x y : Except Failure Ordering} (h : Opposite x y) : Opposite y x := by
  cases x with
  | ok o =>
      cases h
      exact opposite_ok o.swap_swap
  | error f =>
      cases h with
      | refl => exact .refl _
      | discarded => exact .discarded _ _

theorem Numeric.swap_compare (a b : Numeric) : (a.compare b).swap = b.compare a := by
  cases a with
  | int m => cases b <;> exact Int.compare_swap _ _
  | double x => cases b <;> exact Int.compare_swap _ _

/-- Exchanged texts have opposite orders, or the order of neither pair is known. -/
theorem compareText_opposite (d : Dialect) (s t : Text) : Opposite (compareText d s t) (compareText d t s) := by
  have opposite (s t : Text) : Opposite (.ok (s.compare t)) (.ok (t.compare s)) :=
    opposite_ok Std.OrientedCmp.eq_swap.symm
  cases d with
  | sqlite => exact opposite s t
  | mysql =>
      unfold compareText
      dsimp only
      rw [Bool.and_comm (t.allChars isCollationSafe)]
      split
      · exact opposite s.lowerLatin t.lowerLatin
      · exact .discarded _ _

section Values

variable {d : Dialect} {affinity collated : Bool} {l r : Scalar}

/-- A text and an integer have the opposite order of the integer and the text. Where the affinity of a column
may convert one of them, or the text has no certain reading, neither order is known. -/
theorem compareValues_mixed_opposite (t : Text) (n : Bigint) :
    Opposite (compareValues d affinity (.text t) (.int n)) (compareValues d affinity (.int n) (.text t)) := by
  cases d with
  | sqlite =>
      cases affinity with
      | true => exact .discarded _ _
      | false => exact opposite_ok rfl
  | mysql =>
      change Opposite (do return (← Scalar.numeric (.text t)).compare (.int n))
        (do return (Numeric.int n).compare (← Scalar.numeric (.text t)))
      cases Scalar.numeric (.text t) with
      | error f => exact .refl _
      | ok x => exact opposite_ok (x.swap_compare (.int n))

/-- Exchanged values that are not null have opposite orders, or the order of neither pair is known. -/
theorem compareValues_opposite (left : l.isNull = false) (right : r.isNull = false) :
    Opposite (compareValues d affinity l r) (compareValues d affinity r l) := by
  cases l with
  | null => cases left
  | int m =>
      cases r with
      | null => cases right
      | int n =>
          have ordered (m n : Bigint) :
              compareValues d affinity (.int m) (.int n) = .ok (Ord.compare m.val n.val) := by
            cases d <;> rfl
          rw [ordered, ordered]
          exact opposite_ok (Int.compare_swap m.val n.val)
      | text t => exact (compareValues_mixed_opposite t m).symm
  | text s =>
      cases r with
      | null => cases right
      | int n => exact compareValues_mixed_opposite s n
      | text t => exact compareText_opposite d s t

/-- A value has no other order to itself than that of equals. -/
theorem compareValues_self {o : Ordering} (order : compareValues d affinity l l = .ok o) : o = .eq := by
  cases l with
  | null => cases d <;> cases order
  | int n => cases d <;> cases order <;> exact Std.ReflOrd.compare_self
  | text t =>
      cases d with
      | sqlite =>
          cases order
          exact Std.ReflCmp.compare_self
      | mysql =>
          change compareText .mysql t t = .ok o at order
          unfold compareText at order
          dsimp only at order
          split at order
          · cases order
            exact Std.ReflCmp.compare_self
          · cases order

/-! ### Operators -/

/-- The order by which a comparison goes, or why it is not known. Values that are both texts have none where an
operand names its collation. -/
def compareOperands (d : Dialect) (affinity collated : Bool) (l r : Scalar) : Except Failure Ordering :=
  if collated && l.isText && r.isText then .error (.discard (.explicitCollation l r))
  else compareValues d affinity l r

theorem compareOperands_opposite (left : l.isNull = false) (right : r.isNull = false) :
    Opposite (compareOperands d affinity collated l r) (compareOperands d affinity collated r l) := by
  unfold compareOperands
  rw [Bool.and_right_comm collated r.isText]
  split
  · exact .discarded _ _
  · exact compareValues_opposite left right

theorem compareOperands_self {o : Ordering} (order : compareOperands d affinity collated l l = .ok o) :
    o = .eq := by
  unfold compareOperands at order
  split at order
  · cases order
  · exact compareValues_self order

namespace ComparisonOperator

/-- The operator that holds of exchanged operands where this one holds. -/
def mirror : ComparisonOperator → ComparisonOperator
  | .lt => .gt
  | .gt => .lt
  | .le => .ge
  | .ge => .le
  | .eq => .eq
  | .ne => .ne
  | .nullSafeEq => .nullSafeEq

theorem holds_mirror (op : ComparisonOperator) (o : Ordering) : op.mirror.holds o.swap = op.holds o := by
  cases op <;> cases o <;> rfl

theorem mirror_eq_nullSafeEq {op : ComparisonOperator} : op.mirror = .nullSafeEq ↔ op = .nullSafeEq := by
  cases op <;> decide

/-- On operands that are not null, an operator says whether it holds of their order. -/
theorem apply_of_notNull (op : ComparisonOperator) (left : l.isNull = false) (right : r.isNull = false) :
    op.apply d affinity collated l r =
      (do return .ofBool (op.holds (← compareOperands d affinity collated l r))) := by
  unfold apply compareOperands
  rw [left, right]
  split
  · rename_i never
    cases never
  · split <;> rfl

/-- Where an operand is null, an operator is null, or says whether both are. -/
theorem apply_of_null (op : ComparisonOperator) (null : (l.isNull || r.isNull) = true) :
    op.apply d affinity collated l r =
      .ok (if op = .nullSafeEq then .ofBool (l.isNull && r.isNull) else .null) :=
  if_pos null

/-- An operator on two operands and its mirror image on the exchanged ones have the same value, or fail
alike. -/
theorem apply_mirror (op : ComparisonOperator) (l r : Scalar) :
    SameOutcome (op.apply d affinity collated l r) (op.mirror.apply d affinity collated r l) := by
  by_cases null : (l.isNull || r.isNull) = true
  · have exchanged : (r.isNull || l.isNull) = true := by rw [Bool.or_comm, null]
    rw [op.apply_of_null null, op.mirror.apply_of_null exchanged, Bool.and_comm r.isNull]
    simp only [mirror_eq_nullSafeEq]
    exact .refl _
  · obtain ⟨left, right⟩ : l.isNull = false ∧ r.isNull = false := by simpa using null
    have opposite : Opposite (compareOperands d affinity collated l r) (compareOperands d affinity collated r l) :=
      compareOperands_opposite left right
    have same := outcomeCongruence_sameOutcome.bind opposite
      fun o => .refl (pure (Scalar.ofBool (op.mirror.holds o)))
    rw [op.apply_of_notNull left right, op.mirror.apply_of_notNull right left]
    simpa only [bind_assoc, pure_bind, holds_mirror] using same

/-- The null-safe operator finds every value equal to itself, where it has a value at all. -/
theorem apply_self {v : Scalar} (value : nullSafeEq.apply d affinity collated l l = .ok v) : v = .ofBool true := by
  by_cases null : l.isNull = true
  · rw [nullSafeEq.apply_of_null (by rw [null]; rfl), null] at value
    cases value
    rfl
  · have notNull : l.isNull = false := by simpa using null
    rw [nullSafeEq.apply_of_notNull notNull notNull] at value
    obtain ⟨o, order, same⟩ := bind_eq_ok.mp value
    cases same
    rw [compareOperands_self order]
    rfl

/-- The comparisons of two values are coherent. An operator and its mirror image on exchanged operands have the
same value, or fail alike. Of two values that are not null, either all comparisons fail for one reason, or all
are true or false: as complements where they ought to be, with exactly one of less, equal and greater true, and
with no difference between the two operators of equality. The null-safe one finds a value equal to itself, where
it has a value. -/
theorem apply_coherent (d : Dialect) (affinity collated : Bool) (a b : Scalar) :
    (∀ op, SameOutcome (apply d affinity collated op a b) (apply d affinity collated op.mirror b a)) ∧
    (a.isNull = false → b.isNull = false →
      (∃ f, ∀ op, apply d affinity collated op a b = .error f) ∨
      ∃ holds : ComparisonOperator → Bool,
        (∀ op, apply d affinity collated op a b = .ok (.ofBool (holds op))) ∧
        holds .ge = !holds .lt ∧ holds .le = !holds .gt ∧ holds .ne = !holds .eq ∧
        [.lt, .eq, .gt].countP holds = 1 ∧ holds .nullSafeEq = holds .eq) ∧
    ∀ v, apply d affinity collated .nullSafeEq a a = .ok v → v = .ofBool true := by
  refine ⟨fun op => op.apply_mirror a b, fun left right => ?_, fun v => apply_self⟩
  have applied (op : ComparisonOperator) : op.apply d affinity collated a b =
      (do return .ofBool (op.holds (← compareOperands d affinity collated a b))) :=
    op.apply_of_notNull left right
  cases order : compareOperands d affinity collated a b with
  | error f =>
      refine .inl ⟨f, fun op => ?_⟩
      rw [applied, order]
      rfl
  | ok o =>
      refine .inr ⟨(·.holds o), fun op => ?_, ?_⟩
      · rw [applied, order]
        rfl
      · cases o <;> decide

/-- A text that starts with a fraction is less than an integer, which is greater than the text, and it is not
greater or equal. -/
theorem apply_coherent_fraction :
    let a := Scalar.text "9.5x"
    let b := Scalar.int ⟨10, by decide⟩
    a.isNull = false ∧ b.isNull = false ∧ apply .mysql true false .lt a b = .ok (.ofBool true) ∧
      apply .mysql true false .gt b a = .ok (.ofBool true) ∧
      apply .mysql true false .ge a b = .ok (.ofBool false) := by
  intro a b
  have less : apply .mysql true false .lt a b = .ok (.ofBool true) := by decide +kernel
  obtain ⟨mirrored, coherent, -⟩ := apply_coherent .mysql true false a b
  have greater : apply .mysql true false .gt b a = .ok (.ofBool true) :=
    ((mirrored .lt).eq_ok_iff _).mp less
  have notGreaterOrEqual : apply .mysql true false .ge a b = .ok (.ofBool false) := by
    rcases coherent rfl rfl with ⟨f, failed⟩ | ⟨holds, each, complement, -⟩
    · rw [failed .lt] at less
      cases less
    · rw [each .lt] at less
      cases truth : holds .lt with
      | false =>
          rw [truth] at less
          exact nomatch less
      | true => rw [each .ge, complement, truth, Bool.not_true]
  exact ⟨rfl, rfl, less, greater, notGreaterOrEqual⟩

end ComparisonOperator

end Values

end PivotOracle
