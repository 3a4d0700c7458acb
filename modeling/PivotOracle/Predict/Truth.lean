import PivotOracle.Predict.Reading

/-!
# Truth

Truth values are three: true, false and unknown. The connectives are those of Kleene's strong logic, and
both operands are always looked at. A value is true where it is not zero; how a text comes to a number
for that is up to the dialect.

* `Kleene.and`, `Kleene.or`, `Kleene.xor`, `Kleene.not` — the connectives.
* `truthOf` — the truth value of a scalar.
* `Connective.apply`, `PostfixTest.apply`, `negate` — the operators on scalars.
-/

namespace PivotOracle

/-- A truth value, or none where it is unknown. -/
abbrev Kleene := Option Bool

namespace Kleene

/-- Negation. -/
protected def not : Kleene → Kleene
  | some b => some (!b)
  | none => none

/-- Conjunction: false where one side is, unknown where neither is false and one is unknown. -/
protected def and : Kleene → Kleene → Kleene
  | some false, _ => some false
  | _, some false => some false
  | some true, some true => some true
  | _, _ => none

/-- Disjunction: true where one side is, unknown where neither is true and one is unknown. -/
protected def or : Kleene → Kleene → Kleene
  | some true, _ => some true
  | _, some true => some true
  | some false, some false => some false
  | _, _ => none

/-- Exclusive disjunction: unknown where one side is. -/
protected def xor : Kleene → Kleene → Kleene
  | some a, some b => some (a != b)
  | _, _ => none

end Kleene

/-- The connective that an operator stands for. -/
def Connective.connect : Connective → Kleene → Kleene → Kleene
  | .and => Kleene.and
  | .or => Kleene.or
  | .xor => Kleene.xor

/-- Whether a postfix test holds of a truth value. -/
def PostfixTest.holds : PostfixTest → Kleene → Bool
  | .isNull, b => b.isNone
  | .isNotNull, b => b.isSome
  | .isTrue, b => b = some true
  | .isNotTrue, b => b ≠ some true
  | .isFalse, b => b = some false
  | .isNotFalse, b => b ≠ some false

/-- Whether a value that is not null is true: whether its number is not zero. -/
def Scalar.isTrue : Scalar → Except Failure Bool
  | .null => .error (.fault .nullTruth)
  | .int n => .ok (n.val ≠ 0)
  | .text t => do return (← readDouble numeralDigit t).significand ≠ 0

/-- The truth value of a scalar in a dialect. -/
def truthOf (d : Dialect) : Scalar → Except Failure Kleene
  | .null => .ok none
  | .int n => .ok (some (n.val ≠ 0))
  | .text t =>
    match d with
    | .mysql => do return some (← (Scalar.text t).isTrue)
    | .sqlite => do return some ((← readLiteral numeralDigit t).val ≠ 0)

/-- The value of a connective. -/
def Connective.apply (d : Dialect) (op : Connective) (l r : Scalar) :
    Except Failure Scalar := do
  let a ← truthOf d l
  let b ← truthOf d r
  return .ofTruth (op.connect a b)

/-- The value of a postfix test. -/
def PostfixTest.apply (d : Dialect) (op : PostfixTest) (v : Scalar) :
    Except Failure Scalar := do
  return .ofBool (op.holds (← truthOf d v))

/-- A value as it stands, or its negation where a condition is negated. Null stays null. -/
def negate (negated : Bool) (v : Scalar) : Except Failure Scalar :=
  if !negated || v.isNull then .ok v
  else do return .ofBool (!(← v.isTrue))

end PivotOracle
