import PivotOracle.Predict.Failure
import PivotOracle.Text.Utf8

/-!
# Raw values

What a database driver hands over, and what it is as a scalar. Numbers become integers where they are
integral, bytes become text without loss, and all else is refused.

* `RawValue.convert` — the scalar of a raw value, or why there is none.
-/

namespace PivotOracle

/-- A value as a driver gives it. -/
inductive RawValue where
  /-- Plain data: null, a truth value, a number, a text, or a list that no scalar can be. -/
  | plain (d : Data)
  /-- An exact decimal number. -/
  | decimal (v : DecimalValue)
  /-- A sequence of bytes. -/
  | bytes (content : List UInt8)
  /-- A value that is a scalar already. -/
  | scalar (v : Scalar)

/-- Why a raw value is no scalar. -/
inductive ConversionError where
  /-- An integer has no place among the signed 64-bit integers. -/
  | outOfRange (n : Int)
  /-- A value of this type, shown so, is nothing that a scalar can be. -/
  | inconvertible (typeName shown : Text)
deriving DecidableEq, Repr

/-- The wording of a failed conversion. -/
def ConversionError.message : ConversionError → Text
  | .outOfRange n => outOfRangeMessage n
  | .inconvertible typeName shown =>
    "Cannot convert value of raw type <class '" ++ typeName ++ "'> value " ++ shown
      ++ " to a scalar"

/-- The scalar of an integer, which must be in range. -/
def convertInt (n : Int) : Except ConversionError Scalar :=
  match Bigint.ofInt? n with
  | some b => .ok (.int b)
  | none => .error (.outOfRange n)

/-- The scalar of plain data. -/
def Data.convert (d : Data) : Except ConversionError Scalar :=
  match d with
  | .null => .ok .null
  | .bool b => .ok (.ofBool b)
  | .int n => convertInt n
  | .double (.finite x) =>
    if x.isIntegral then convertInt x.toInt else .error (.inconvertible "float" d.shown)
  | .double _ => .error (.inconvertible "float" d.shown)
  | .text t => .ok (.text t)
  | .list _ => .error (.inconvertible "list" d.shown)
  | .table _ => .error (.inconvertible "dict" d.shown)

/-- The scalar of a raw value. -/
def RawValue.convert : RawValue → Except ConversionError Scalar
  | .plain d => d.convert
  | .decimal (.finite d) =>
    if d.isIntegral then convertInt d.toInt
    else .error (.inconvertible "decimal.Decimal" d.text)
  | .decimal v => .error (.inconvertible "decimal.Decimal" v.text)
  | .bytes content => .ok (.text (Text.ofUtf8 content))
  | .scalar v => .ok v

end PivotOracle
