import PivotOracle.Sql.Operator

/-!
# Scalars

The values that an expression may have: null, a signed 64-bit integer or a text. There are no other
numbers, and truth values are the integers one and zero.
-/

namespace PivotOracle

/-- The least signed 64-bit integer. -/
def minBigint : Int := -9223372036854775808

/-- The greatest signed 64-bit integer. -/
def maxBigint : Int := 9223372036854775807

/-- A signed 64-bit integer. -/
structure Bigint where
  val : Int
  inRange : minBigint ≤ val ∧ val ≤ maxBigint
deriving DecidableEq, Repr

namespace Bigint

/-- The signed 64-bit integer of a value, if the value is in range. -/
def ofInt? (n : Int) : Option Bigint :=
  if h : minBigint ≤ n ∧ n ≤ maxBigint then some ⟨n, h⟩ else none

theorem ofInt?_val (n : Bigint) : ofInt? n.val = some n := by
  simp [ofInt?, n.inRange]

theorem val_of_ofInt? {n : Int} {b : Bigint} (h : ofInt? n = some b) : b.val = n := by
  simp only [ofInt?] at h
  split at h
  · cases h; rfl
  · cases h

instance : OfNat Bigint 0 := ⟨⟨0, by decide⟩⟩

instance : OfNat Bigint 1 := ⟨⟨1, by decide⟩⟩

end Bigint

/-- The value of an expression. -/
inductive Scalar where
  | null
  | int (n : Bigint)
  | text (t : Text)
deriving DecidableEq, Repr

namespace Scalar

/-- The integer of a truth value. -/
def ofBool (b : Bool) : Scalar := .int (if b then 1 else 0)

/-- The scalar of a three-valued truth value; null where it is unknown. -/
def ofTruth : Option Bool → Scalar
  | none => .null
  | some b => ofBool b

/-- The type of a value. -/
def datatype : Scalar → ValueType
  | .null => .null
  | .int _ => .integer
  | .text _ => .text

/-- Whether a value is null. -/
def isNull : Scalar → Bool
  | .null => true
  | _ => false

theorem isNull_iff {v : Scalar} : v.isNull = true ↔ v = .null := by
  cases v <;> simp [isNull]

/-- Whether a value is a text. -/
def isText : Scalar → Bool
  | .text _ => true
  | _ => false

/-- A value as messages show it: a text between single quotes, each of its own written twice. -/
def shown : Scalar → Text
  | .null => "NULL"
  | .int n => Text.ofInt n.val
  | .text t => "'" ++ t.replace (.char '\'') "''" ++ "'"

end Scalar

end PivotOracle
