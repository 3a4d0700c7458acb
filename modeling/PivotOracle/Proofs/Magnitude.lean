import PivotOracle.Prediction
import PivotOracle.Proofs.Outcome

/-!
# Magnitudes and negation

MySQL gives the magnitude of a text and its negation in doubles alike. The prediction of a negation gives up
where the double is not sure to be the integer that the text is cast to; that of a magnitude casts the text,
whatever it is. Apart from such texts the two are predicted together.

* `Scalar.signed`, `Scalar.ComputedInDoubles` — the integer that a value is cast to, and when the double of the
  value may be another one.
* `arithmeticOperand_of_signed`, `signed_of_arithmeticOperand` — the operand of a negation and the cast.
* `FunctionRule.mysqlAbs_eq_ok_iff`, `UnaryOperator.minus_eq_ok_iff` — what is predicted of either.
* `FunctionRule.mysqlAbs_iff_minus` — the magnitude of a negation, and the texts that have a magnitude alone.
-/

namespace PivotOracle

/-- The integer that a value is cast to by the rules of MySQL. -/
def Scalar.signed (v : Scalar) : Except Failure Bigint := do (← v.castSigned).expectInt

/-- A value is a text that MySQL computes with in doubles, where it may be another number than the integer `n`
that it is cast to: it is no integer literal after its blanks, or `n` is beyond the magnitudes up to which every
integer is a double. -/
def Scalar.ComputedInDoubles (n : Bigint) : Scalar → Prop
  | .text t => isIntegerNumeral numeralDigit t.skipBlanks = false ∨ maxExactDouble < n.val.natAbs
  | _ => False

theorem Scalar.signed_text (t : Text) : (Scalar.text t).signed = readSigned numeralDigit t := by
  unfold signed castSigned
  rw [bind_assoc]
  exact bind_pure _

section Operand

variable {v : Scalar} {n : Bigint}

/-- A value that is cast to an integer is taken as this integer for an operand, or is discarded as a text that is
computed with in doubles. -/
theorem arithmeticOperand_of_signed (cast : v.signed = .ok n) :
    (¬ v.ComputedInDoubles n ∧ arithmeticOperand .mysql v = .ok n.val) ∨
      (v.ComputedInDoubles n ∧ (arithmeticOperand .mysql v = .error (.discard (.doubleOperand v)) ∨
        arithmeticOperand .mysql v = .error (.discard (.inexactOperand v)))) := by
  cases v with
  | null => cases cast
  | int m =>
      cases cast
      exact .inl ⟨id, rfl⟩
  | text t =>
      rw [Scalar.signed_text] at cast
      by_cases literal : isIntegerNumeral numeralDigit t.skipBlanks = true
      · have operand : arithmeticOperand .mysql (.text t) =
            if maxExactDouble < n.val.natAbs then .error (.discard (.inexactOperand (.text t)))
            else .ok n.val := by
          simp only [arithmeticOperand, literal, cast]
          rfl
        rw [operand]
        split
        · rename_i inexact
          exact .inr ⟨.inr inexact, .inr rfl⟩
        · rename_i notInexact
          exact .inl ⟨not_or.mpr ⟨Bool.ne_false_iff.mpr literal, notInexact⟩, rfl⟩
      · have noLiteral := Bool.eq_false_iff.mpr literal
        exact .inr ⟨.inl noLiteral, .inl (by simp [arithmeticOperand, noLiteral])⟩

/-- An operand is taken as the integer that it is cast to. -/
theorem signed_of_arithmeticOperand {a : Int} (operand : arithmeticOperand .mysql v = .ok a) :
    ∃ n, v.signed = .ok n ∧ n.val = a := by
  cases v with
  | null => cases operand
  | int m =>
      cases operand
      exact ⟨m, rfl, rfl⟩
  | text t =>
      rw [Scalar.signed_text]
      unfold arithmeticOperand at operand
      dsimp only at operand
      split at operand
      · cases operand
      · obtain ⟨n, read, kept⟩ := bind_eq_ok.mp operand
        split at kept
        · cases kept
        · cases kept
          exact ⟨n, read, rfl⟩

end Operand

/-! ### What is predicted -/

/-- The least integer is the only one of which the negation is out of range. -/
theorem Bigint.neg_inRange_iff (n : Bigint) :
    minBigint ≤ -n.val ∧ -n.val ≤ maxBigint ↔ n.val ≠ minBigint := by
  have := n.inRange
  simp only [minBigint, maxBigint] at *
  omega

/-- The scalar of an integer in range has this value. -/
theorem Scalar.ofInt_eq_ok_iff {n : Int} {v : Scalar} :
    Scalar.ofInt n = .ok v ↔ ∃ m : Bigint, v = .int m ∧ m.val = n := by
  constructor
  · intro value
    unfold Scalar.ofInt at value
    split at value
    · rename_i m found
      cases value
      exact ⟨m, rfl, Bigint.val_of_ofInt? found⟩
    · cases value
  · rintro ⟨m, rfl, rfl⟩
    exact Scalar.ofInt_eq_ok m.inRange

/-- A result is predicted where it is in range. -/
theorem bigintResult_eq_ok_iff {n : Int} {v : Scalar} :
    bigintResult n = .ok v ↔ ∃ m : Bigint, v = .int m ∧ m.val = n := by
  rw [← Scalar.ofInt_eq_ok_iff]
  unfold bigintResult
  split
  · exact Iff.rfl
  · rename_i outOfRange
    constructor
    · exact nofun
    · intro value
      obtain ⟨m, -, rfl⟩ := Scalar.ofInt_eq_ok_iff.mp value
      exact absurd m.inRange outOfRange

namespace UnaryOperator

variable {v : Scalar}

theorem apply_minus (d : Dialect) (notNull : v.isNull = false) :
    minus.apply d v = (do bigintResult (-(← arithmeticOperand d v))) := by
  unfold apply
  rw [notNull]
  rfl

/-- A negation is predicted of the integer that a value is cast to, unless that is computed in doubles. -/
theorem minus_eq_ok_iff (notNull : v.isNull = false) {w : Scalar} :
    minus.apply .mysql v = .ok w ↔
      ∃ n m : Bigint, v.signed = .ok n ∧ ¬ v.ComputedInDoubles n ∧ w = .int m ∧ m.val = -n.val := by
  rw [apply_minus .mysql notNull, bind_eq_ok]
  constructor
  · rintro ⟨a, operand, result⟩
    obtain ⟨n, cast, rfl⟩ := signed_of_arithmeticOperand operand
    obtain ⟨m, rfl, same⟩ := bigintResult_eq_ok_iff.mp result
    rcases arithmeticOperand_of_signed cast with ⟨notInDoubles, -⟩ | ⟨-, discarded | discarded⟩
    · exact ⟨n, m, cast, notInDoubles, rfl, same⟩
    · rw [discarded] at operand
      cases operand
    · rw [discarded] at operand
      cases operand
  · rintro ⟨n, m, cast, notInDoubles, rfl, same⟩
    rcases arithmeticOperand_of_signed cast with ⟨-, operand⟩ | ⟨inDoubles, -⟩
    · exact ⟨n.val, operand, bigintResult_eq_ok_iff.mpr ⟨m, rfl, same⟩⟩
    · exact absurd inDoubles notInDoubles

/-- No negation is predicted of a text that is computed with in doubles. -/
theorem minus_of_computedInDoubles {n : Bigint} (notNull : v.isNull = false) (cast : v.signed = .ok n)
    (inDoubles : v.ComputedInDoubles n) :
    minus.apply .mysql v = .error (.discard (.doubleOperand v)) ∨
      minus.apply .mysql v = .error (.discard (.inexactOperand v)) := by
  rw [apply_minus .mysql notNull]
  rcases arithmeticOperand_of_signed cast with ⟨notInDoubles, -⟩ | ⟨-, discarded | discarded⟩
  · exact absurd inDoubles notInDoubles
  · exact .inl (by rw [discarded]; rfl)
  · exact .inr (by rw [discarded]; rfl)

end UnaryOperator

namespace FunctionRule

variable {v : Scalar}

/-- A magnitude is predicted of the integer that a value is cast to, unless that is the least one. -/
theorem mysqlAbs_eq_ok_iff (notNull : v.isNull = false) (types : List TypeResult) {w : Scalar} :
    mysqlAbs [v] types = .ok w ↔
      ∃ n m : Bigint, v.signed = .ok n ∧ n.val ≠ minBigint ∧ w = .int m ∧ m.val = n.val.natAbs := by
  have applied : mysqlAbs [v] types = (do
      let n ← v.signed
      if n.val = minBigint then .error (.discard (.absOutOfRange n.val)) else Scalar.ofInt n.val.natAbs) := by
    rw [Scalar.signed, bind_assoc]
    exact if_neg (by rw [notNull]; exact Bool.false_ne_true)
  rw [applied, bind_eq_ok]
  constructor
  · rintro ⟨n, cast, result⟩
    split at result
    · cases result
    · rename_i notLeast
      obtain ⟨m, rfl, same⟩ := Scalar.ofInt_eq_ok_iff.mp result
      exact ⟨n, m, cast, notLeast, rfl, same⟩
  · rintro ⟨n, m, cast, notLeast, rfl, same⟩
    refine ⟨n, cast, ?_⟩
    rw [if_neg notLeast, Scalar.ofInt_eq_ok_iff]
    exact ⟨m, rfl, same⟩

theorem mysqlAbs_of_signed {n : Bigint} (notNull : v.isNull = false) (types : List TypeResult)
    (cast : v.signed = .ok n) (notLeast : n.val ≠ minBigint) :
    ∃ m : Bigint, mysqlAbs [v] types = .ok (.int m) ∧ m.val = n.val.natAbs := by
  obtain ⟨m, value⟩ := Scalar.ofInt_natAbs notLeast
  obtain ⟨_, found, same⟩ := Scalar.ofInt_eq_ok_iff.mp value
  cases found
  exact ⟨m, (mysqlAbs_eq_ok_iff notNull types).mpr ⟨n, m, cast, notLeast, rfl, same⟩, same⟩

/-- Where a negation is predicted, so is the magnitude, and it is that of the negation. -/
theorem mysqlAbs_of_minus {w : Scalar} (notNull : v.isNull = false) (types : List TypeResult)
    (value : UnaryOperator.minus.apply .mysql v = .ok w) :
    ∃ m n : Bigint, w = .int m ∧ mysqlAbs [v] types = .ok (.int n) ∧ n.val = m.val.natAbs := by
  obtain ⟨n, m, cast, -, rfl, opposite⟩ := (UnaryOperator.minus_eq_ok_iff notNull).mp value
  have notLeast : n.val ≠ minBigint := n.neg_inRange_iff.mp (opposite ▸ m.inRange)
  obtain ⟨k, magnitude, same⟩ := mysqlAbs_of_signed notNull types cast notLeast
  exact ⟨m, k, rfl, magnitude, by rw [same, opposite, Int.natAbs_neg]⟩

/-- What unary minus and ABS make of a value that is not null. Where the negation is predicted, so is the
magnitude, and it is that of the negation. The magnitude is predicted in one more case, where the negation is
discarded: of a text that is computed with in doubles, unless it is cast to the least integer. -/
theorem mysqlAbs_iff_minus (notNull : v.isNull = false) (types : List TypeResult) :
    (∀ w, UnaryOperator.minus.apply .mysql v = .ok w →
      ∃ m n : Bigint, w = .int m ∧ mysqlAbs [v] types = .ok (.int n) ∧ n.val = m.val.natAbs) ∧
    ((∃ w, mysqlAbs [v] types = .ok w) ↔ (∃ w, UnaryOperator.minus.apply .mysql v = .ok w) ∨
      ∃ n, v.signed = .ok n ∧ n.val ≠ minBigint ∧ v.ComputedInDoubles n) ∧
    ∀ n, v.signed = .ok n → v.ComputedInDoubles n →
      UnaryOperator.minus.apply .mysql v = .error (.discard (.doubleOperand v)) ∨
      UnaryOperator.minus.apply .mysql v = .error (.discard (.inexactOperand v)) := by
  refine ⟨fun w => mysqlAbs_of_minus notNull types, ⟨?_, ?_⟩,
    fun n => UnaryOperator.minus_of_computedInDoubles notNull⟩
  · rintro ⟨w, value⟩
    obtain ⟨n, m, cast, notLeast, rfl, same⟩ := (mysqlAbs_eq_ok_iff notNull types).mp value
    by_cases inDoubles : v.ComputedInDoubles n
    · exact .inr ⟨n, cast, notLeast, inDoubles⟩
    · exact .inl ⟨_, (UnaryOperator.minus_eq_ok_iff notNull).mpr
        ⟨n, ⟨-n.val, n.neg_inRange_iff.mpr notLeast⟩, cast, inDoubles, rfl, rfl⟩⟩
  · rintro (⟨w, value⟩ | ⟨n, cast, notLeast, -⟩)
    · obtain ⟨-, k, -, magnitude, -⟩ := mysqlAbs_of_minus notNull types value
      exact ⟨_, magnitude⟩
    · obtain ⟨k, magnitude, -⟩ := mysqlAbs_of_signed notNull types cast notLeast
      exact ⟨_, magnitude⟩

/-- The text of an integer, after a blank, has a negation, and the magnitude of this. -/
theorem mysqlAbs_iff_minus_integer :
    (Scalar.text " -7").isNull = false ∧
      UnaryOperator.minus.apply .mysql (.text " -7") = .ok (.int ⟨7, by decide⟩) ∧
      mysqlAbs [.text " -7"] [] = .ok (.int ⟨7, by decide⟩) := by
  have negation : UnaryOperator.minus.apply .mysql (.text " -7") = .ok (.int ⟨7, by decide⟩) := rfl
  obtain ⟨negative, -, -⟩ := mysqlAbs_iff_minus (v := .text " -7") rfl []
  obtain ⟨_, ⟨n, inRange⟩, same, magnitude, rfl⟩ := negative _ negation
  cases same
  exact ⟨rfl, negation, magnitude⟩

/-- Texts that are computed with in doubles, of a fraction and of an integer that is no double: the magnitude is
predicted as that of an integer, but not so the negation. -/
theorem mysqlAbs_not_minus :
    let fraction := Scalar.text "1.5"
    let great := Scalar.text "9007199254740993"
    mysqlAbs [fraction] [] = .ok (.int 1) ∧
      UnaryOperator.minus.apply .mysql fraction = .error (.discard (.doubleOperand fraction)) ∧
      (Expr.call .abs [.constant fraction]).predict .mysql = .ok (.value (.int 1)) ∧
      (Expr.unary .minus (.constant fraction)).predict .mysql = .ok (.discarded (.doubleOperand fraction)) ∧
      mysqlAbs [great] [] = .ok (.int ⟨9007199254740993, by decide⟩) ∧
      UnaryOperator.minus.apply .mysql great = .error (.discard (.inexactOperand great)) :=
  ⟨rfl, rfl, rfl, rfl, rfl, rfl⟩

end FunctionRule

end PivotOracle
