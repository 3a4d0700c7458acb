import PivotOracle.Predict.Truth

/-!
# Arithmetic

Sums, differences, products and negation on signed 64-bit integers. The engines fail where a result
leaves the range, and compute in floating point where a text operand is no plain integer; such cases
are given up.

* `castTo` — the value of a cast.
* `arithmeticOperand` — the integer that an operand is taken as.
* `bigintResult` — a result, if it is in range.
-/

namespace PivotOracle

/-- The scalar of an integer, which must be in range. -/
def Scalar.ofInt (n : Int) : Except Failure Scalar :=
  match Bigint.ofInt? n with
  | some b => .ok (.int b)
  | none => .error (.outOfRange n)

namespace Scalar

/-- The integer of a scalar that is one. -/
def expectInt : Scalar → Except Failure Bigint
  | .int n => .ok n
  | v => .error (.fault (.notAnInteger v))

/-- The text of a scalar that is one. -/
def expectText : Scalar → Except Failure Text
  | .text t => .ok t
  | v => .error (.fault (.notText v))

/-- A scalar as an integer, read by the rules of MySQL. Null stays null. -/
def castSigned : Scalar → Except Failure Scalar
  | .text t => do return .int (← readSigned numeralDigit t)
  | v => .ok v

/-- A scalar as a text. Null stays null. -/
def castText : Scalar → Scalar
  | .int n => .text (Text.ofInt n.val)
  | v => v

/-- A scalar as a value of a type, read by the rules of MySQL. -/
def castAs (target : CastTarget) (v : Scalar) : Except Failure Scalar :=
  match target with
  | .signed => v.castSigned
  | .text => .ok v.castText

end Scalar

/-- The value of a cast. -/
def castTo (d : Dialect) (target : CastTarget) (v : Scalar) : Except Failure Scalar :=
  match d, target, v with
  | .sqlite, .signed, .text t => do return .int (← readLiteral numeralDigit t)
  | _, _, _ => v.castAs target

/-- The greatest magnitude up to which every integer is a double. -/
def maxExactDouble : Nat := 9007199254740992

/-- The integer that an operand of an arithmetic operator is taken as. A text must be an integer
literal, after blanks in MySQL, where it must also be exact as a double. -/
def arithmeticOperand (d : Dialect) (v : Scalar) : Except Failure Int :=
  match d, v with
  | .sqlite, .text t =>
    if !isIntegerNumeral numeralDigit t then .error (.discard (.realOperand v))
    else do return (← readLiteral numeralDigit t).val
  | .mysql, .text t =>
    if !isIntegerNumeral numeralDigit t.skipBlanks then .error (.discard (.doubleOperand v))
    else do
      let n ← readSigned numeralDigit t
      if maxExactDouble < n.val.natAbs then .error (.discard (.inexactOperand v))
      else return n.val
  | _, v => do return (← v.expectInt).val

/-- A result, if it is a signed 64-bit integer. -/
def bigintResult (n : Int) : Except Failure Scalar :=
  if minBigint ≤ n ∧ n ≤ maxBigint then Scalar.ofInt n else .error (.discard (.outOfRange n))

/-- What an operator computes. -/
def ArithmeticOperator.compute : ArithmeticOperator → Int → Int → Int
  | .add, a, b => a + b
  | .subtract, a, b => a - b
  | .multiply, a, b => a * b

/-- The value of an arithmetic operator; null where an operand is. -/
def ArithmeticOperator.apply (d : Dialect) (op : ArithmeticOperator) (l r : Scalar) :
    Except Failure Scalar :=
  if l.isNull || r.isNull then .ok .null
  else do
    let a ← arithmeticOperand d l
    let b ← arithmeticOperand d r
    bigintResult (op.compute a b)

/-- The value of a unary operator. Plus gives its operand back whatever it is. -/
def UnaryOperator.apply (d : Dialect) (op : UnaryOperator) (v : Scalar) : Except Failure Scalar :=
  match op with
  | .plus => .ok v
  | .not => do return .ofTruth (Kleene.not (← truthOf d v))
  | .minus =>
    if v.isNull then .ok .null
    else do bigintResult (-(← arithmeticOperand d v))

end PivotOracle
