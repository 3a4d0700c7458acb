import PivotOracle.Proofs.NearestDouble
import PivotOracle.Proofs.ReadingLimits

/-!
# Arithmetic in doubles

MySQL computes in doubles where an operand of an arithmetic operator is a text. A prediction computes with
integers, after a check that each text is exact as a double. The check says nothing of an operand that is no
text, nor of the result, and here is where the prediction is what the double would be all the same.

* `ArithmeticOperator.inDoubles` — what an operator gives in doubles: the exact result, rounded.
* `ArithmeticOperator.inDoubles_of_isDouble` — on integers that are doubles, it is the double nearest to what
  the operator computes.
* `ArithmeticOperator.apply_mysql_inDoubles` — what is predicted of an operator on texts, and when the double is the same.
* `ArithmeticOperator.apply_mysql_not_inDoubles` — a prediction that is no double.
-/

namespace PivotOracle

/-! ### Operators in doubles -/

namespace ArithmeticOperator

/-- The units in one of what an operator computes from units. -/
def unit : ArithmeticOperator → Nat
  | .add => Binary64.unit
  | .subtract => Binary64.unit
  | .multiply => Binary64.unit * Binary64.unit

/-- What an operator gives on two doubles: the exact result, rounded. -/
def onDoubles (op : ArithmeticOperator) (x y : Binary64) : Option Binary64 :=
  let exact := op.compute x.scaled y.scaled
  Binary64.ofQuotient (exact < 0) exact.natAbs op.unit

/-- What an operator gives in doubles on two integers, each of which is rounded first. -/
def inDoubles (op : ArithmeticOperator) (a b : Int) : Option Binary64 := do
  op.onDoubles (← Binary64.ofInt? a) (← Binary64.ofInt? b)

/-- An operator gives an integer in doubles. -/
def InDoubles (op : ArithmeticOperator) (a b n : Int) : Prop := ∃ z ∈ op.inDoubles a b, z.Is n

instance (op : ArithmeticOperator) (a b n : Int) : Decidable (op.InDoubles a b n) :=
  inferInstanceAs (Decidable (∃ z ∈ op.inDoubles a b, z.Is n))

variable (op : ArithmeticOperator)

theorem unit_pos : 0 < op.unit := by
  cases op with
  | add => exact Binary64.unit_pos
  | subtract => exact Binary64.unit_pos
  | multiply => exact Nat.mul_pos Binary64.unit_pos Binary64.unit_pos

theorem compute_units (a b : Int) :
    op.compute (a * Binary64.unit) (b * Binary64.unit) = op.compute a b * op.unit := by
  cases op with
  | add => exact (Int.add_mul _ _ _).symm
  | subtract => exact (Int.sub_mul _ _ _).symm
  | multiply =>
      change a * Binary64.unit * (b * Binary64.unit) = a * b * ((Binary64.unit * Binary64.unit : Nat) : Int)
      rw [Int.natCast_mul]
      generalize (Binary64.unit : Int) = u
      ac_rfl

/-- On doubles that are integers, an operator gives the double nearest to the integer that it computes. -/
theorem onDoubles_of_is {x y : Binary64} {a b : Int} (hx : x.Is a) (hy : y.Is b) :
    op.onDoubles x y = Binary64.ofInt? (op.compute a b) := by
  have sign : decide (op.compute a b * op.unit < 0) = decide (op.compute a b < 0) := by
    have pos : (0 : Int) < op.unit := Int.natCast_pos.mpr op.unit_pos
    refine decide_eq_decide.mpr ⟨fun neg => ?_, fun neg => Int.mul_neg_of_neg_of_pos neg pos⟩
    exact Int.not_le.mp fun nonneg => absurd (Int.mul_nonneg nonneg (Int.le_of_lt pos)) (Int.not_le.mpr neg)
  have exact : op.compute x.scaled y.scaled = op.compute a b * op.unit := by
    rw [hx, hy, compute_units]
  simp only [onDoubles, Binary64.ofInt?, exact, sign, Int.natAbs_mul, Int.natAbs_natCast]
  have cancel := Binary64.ofQuotient_mul_right (op.compute a b < 0) (op.compute a b).natAbs 1 op.unit_pos
  rwa [Nat.one_mul] at cancel

/-- On integers that are doubles, an operator gives the double nearest to what it computes. -/
theorem inDoubles_of_isDouble {a b : Int} (ha : IsDouble a) (hb : IsDouble b) :
    op.inDoubles a b = Binary64.ofInt? (op.compute a b) := by
  obtain ⟨x, nearA, isA⟩ := ha
  obtain ⟨y, nearB, isB⟩ := hb
  rw [← op.onDoubles_of_is isA isB, inDoubles, nearA, nearB, Option.bind_eq_bind, Option.bind_some,
    Option.bind_some]

/-- On integers that are doubles, an operator gives in doubles what it computes if and only if this is a double
as well. -/
theorem inDoubles_is_iff {a b : Int} (ha : IsDouble a) (hb : IsDouble b) :
    op.InDoubles a b (op.compute a b) ↔ IsDouble (op.compute a b) := by
  rw [InDoubles, op.inDoubles_of_isDouble ha hb, IsDouble]

/-- An integer that an operator gives in doubles is a double. -/
theorem InDoubles.isDouble {op : ArithmeticOperator} {a b n : Int} (range : minBigint ≤ n ∧ n ≤ maxBigint)
    (h : op.InDoubles a b n) : IsDouble n := by
  obtain ⟨z, result, same⟩ := h
  obtain ⟨x, -, rest⟩ := Option.bind_eq_some_iff.mp result
  obtain ⟨y, -, rounded⟩ := Option.bind_eq_some_iff.mp rest
  exact (isDouble_iff range).mpr (same.bits (Binary64.ofQuotient_eq op.unit_pos rounded).2)

end ArithmeticOperator

/-! ### Predictions on texts -/

/-- What an operand of MySQL is taken as, where it is not null: itself, or an integer that is a double, or its
text is discarded or breaks its reading off. -/
theorem arithmeticOperand_text {v : Scalar} (notNull : v.isNull = false) :
    Yields (fun f => (∃ reason, f = .discard reason) ∨ ∃ t, v = .text t ∧ t.BreaksOff .mysql f)
      (fun a => v.isText = true → IsDouble a) (arithmeticOperand .mysql v) := by
  cases v with
  | null => cases notNull
  | int n => exact nofun
  | text t =>
      simp only [arithmeticOperand]
      split
      · exact .inl ⟨_, rfl⟩
      · refine Yields.bind ((readSigned_yields t).weaken fun f failure => ?_) fun n _ => ?_
        · exact failure.imp_right fun breaks => ⟨t, rfl, breaks⟩
        · split
          · exact .inl ⟨_, rfl⟩
          · rename_i small
            exact fun _ => isDouble_of_le (Nat.le_of_not_lt small)

/-- Results are in range, or discarded. -/
theorem bigintResult_eq (n : Int) :
    (∃ b : Bigint, bigintResult n = .ok (.int b) ∧ b.val = n) ∨
      bigintResult n = .error (.discard (.outOfRange n)) := by
  unfold bigintResult
  split
  · rename_i range
    refine .inl ⟨⟨n, range⟩, ?_, rfl⟩
    unfold Scalar.ofInt
    rw [Bigint.ofInt?_val ⟨n, range⟩]
  · exact .inr rfl

namespace ArithmeticOperator

/-- What MySQL is predicted to compute with texts. The case is discarded, or a text breaks its reading off, or
the prediction is the exact result for the integers `a` and `b` that the operands are taken as. Of these, one
that was a text is a double. Where both are, the result in doubles is the same if and only if the exact result
is a double. Where an operand is none, a result in doubles that is the same is a double still. -/
theorem apply_mysql_inDoubles (op : ArithmeticOperator) {l r : Scalar} (left : l.isNull = false)
    (right : r.isNull = false) :
    (∃ reason, op.apply .mysql l r = .error (.discard reason)) ∨
      (∃ t f, (l = .text t ∨ r = .text t) ∧ t.BreaksOff .mysql f ∧ op.apply .mysql l r = .error f) ∨
      ∃ (a b : Int) (n : Bigint), arithmeticOperand .mysql l = .ok a ∧ arithmeticOperand .mysql r = .ok b ∧
        op.apply .mysql l r = .ok (.int n) ∧ n.val = op.compute a b ∧
        (l.isText = true → IsDouble a) ∧ (r.isText = true → IsDouble b) ∧
        (IsDouble a → IsDouble b → (op.InDoubles a b n.val ↔ IsDouble n.val)) ∧
        (op.InDoubles a b n.val → IsDouble n.val) := by
  have applied : op.apply .mysql l r = (do
      let a ← arithmeticOperand .mysql l
      let b ← arithmeticOperand .mysql r
      bigintResult (op.compute a b)) := by
    rw [apply, left, right]
    rfl
  rw [applied]
  have operandL := arithmeticOperand_text left
  have operandR := arithmeticOperand_text right
  cases readL : arithmeticOperand .mysql l with
  | error f =>
      rw [readL] at operandL
      rcases operandL with ⟨reason, rfl⟩ | ⟨t, same, breaks⟩
      · exact .inl ⟨reason, rfl⟩
      · exact .inr (.inl ⟨t, f, .inl same, breaks, rfl⟩)
  | ok a =>
      cases readR : arithmeticOperand .mysql r with
      | error f =>
          rw [readR] at operandR
          rcases operandR with ⟨reason, rfl⟩ | ⟨t, same, breaks⟩
          · exact .inl ⟨reason, rfl⟩
          · exact .inr (.inl ⟨t, f, .inr same, breaks, rfl⟩)
      | ok b =>
          rcases bigintResult_eq (op.compute a b) with ⟨n, result, same⟩ | discarded
          · refine .inr (.inr ⟨a, b, n, rfl, rfl, result, same, operandL.of_eq_ok readL,
              operandR.of_eq_ok readR, fun ha hb => ?_, InDoubles.isDouble n.inRange⟩)
            rw [same]
            exact op.inDoubles_is_iff ha hb
          · exact .inl ⟨_, discarded⟩

/-- A text and an integer of which the sum is predicted, and is the same in doubles. -/
theorem apply_mysql_inDoubles_one :
    (Scalar.text "1").isNull = false ∧ (Scalar.int 1).isNull = false ∧
      add.apply .mysql (.text "1") (.int 1) = .ok (.int ⟨2, by decide⟩) ∧ add.InDoubles 1 1 2 := by
  have operand : arithmeticOperand .mysql (.text "1") = .ok 1 := by decide +kernel
  have sum : add.apply .mysql (.text "1") (.int 1) = .ok (.int ⟨2, by decide⟩) := by decide +kernel
  refine ⟨rfl, rfl, sum, ?_⟩
  rcases apply_mysql_inDoubles add (l := .text "1") (r := .int 1) rfl rfl with
    ⟨reason, discarded⟩ | ⟨t, f, -, -, broken⟩ | ⟨a, b, n, left, right, result, -, -, -, same, -⟩
  · rw [sum] at discarded
    cases discarded
  · rw [sum] at broken
    cases broken
  · rw [operand] at left
    rw [sum] at result
    cases left
    cases right
    cases result
    exact (same (isDouble_of_le (by decide)) (isDouble_of_le (by decide))).mpr (isDouble_of_le (by decide))

/-- The greatest text that is computed with, and one: the sum is predicted, but in doubles it is the number of
the text. -/
theorem apply_mysql_not_inDoubles :
    add.apply .mysql (.text "9007199254740992") (.int 1) = .ok (.int ⟨9007199254740993, by decide⟩) ∧
      add.InDoubles 9007199254740992 1 9007199254740992 ∧
      ¬ add.InDoubles 9007199254740992 1 9007199254740993 := by
  decide +kernel

end ArithmeticOperator

end PivotOracle
