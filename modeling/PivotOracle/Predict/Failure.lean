import PivotOracle.Sql.Dialect
import PivotOracle.Sql.Scalar

/-!
# Failures

Why an expression has no predicted value, or no SQL text. A `Discard` says that the engine's answer
is not known for certain, so that the case is to be given up and another one made. Every other
failure is a defect of the expression or of a limit.

* `Discard.message`, `Fault.message`, `Failure.message` — the wording of each.
-/

namespace PivotOracle

/-- What a text is read as. -/
inductive NumericReading where
  | integer
  | double
deriving DecidableEq, Repr

/-- Why the engine's answer cannot be predicted. -/
inductive Discard where
  /-- A newline follows the leading blanks of a text read as a number. -/
  | leadingNewline (reading : NumericReading) (t : Text)
  /-- The integer that starts a text has no place among the signed 64-bit integers. -/
  | integerPrefix (t : Text)
  /-- The number that starts a text has no place among the doubles. -/
  | numericPrefix (t : Text)
  /-- A newline or a period follows the leading blanks of a text. -/
  | leadingText (t : Text)
  /-- A text is read as a floating-point number. -/
  | readAsReal (t : Text)
  /-- It is not certain which number a text is read as. -/
  | unknownReading (t : Text)
  /-- A text operand makes the computation one of floating-point numbers, in SQLite. -/
  | realOperand (v : Scalar)
  /-- A text operand makes the computation one of doubles, in MySQL. -/
  | doubleOperand (v : Scalar)
  /-- A text operand is an integer that doubles do not hold exactly. -/
  | inexactOperand (v : Scalar)
  /-- A result has no place among the signed 64-bit integers. -/
  | outOfRange (n : Int)
  /-- Two texts are compared by a collation that is not known for them. -/
  | collation (left right : Scalar)
  /-- A column affinity converts one of two operands before they are compared. -/
  | affinity (left right : Scalar)
  /-- Two texts are compared by a collation that the expression names. -/
  | explicitCollation (left right : Scalar)
  /-- The magnitude of the least integer has no place among the integers, in MySQL. -/
  | absOutOfRange (n : Int)
  /-- The magnitude of the least integer overflows, in SQLite. -/
  | absOverflow (n : Int)
  /-- The magnitude of a text is a floating-point number, in SQLite. -/
  | absOfText (v : Scalar)
  /-- A subquery drops the pivot row, and other rows may be left. -/
  | pivotFiltered
deriving DecidableEq, Repr

/-- The wording of a discard. -/
def Discard.message : Discard → Text
  | .leadingNewline .integer t => "Leading newline in integer conversion of " ++ t.quoted
  | .leadingNewline .double t => "Leading newline in numeric conversion of " ++ t.quoted
  | .integerPrefix t => "Integer prefix of " ++ t.quoted ++ " is out of range"
  | .numericPrefix t => "Numeric prefix of " ++ t.quoted ++ " overflows"
  | .leadingText t =>
    "Text " ++ t.quoted ++ " starts with a newline or period after leading blanks"
  | .readAsReal t => "Text " ++ t.quoted ++ " is read as REAL"
  | .unknownReading t => "Numeric reading of " ++ t.quoted ++ " is not modeled"
  | .realOperand v => "Text operand " ++ v.shown ++ " is evaluated as REAL"
  | .doubleOperand v => "Text operand " ++ v.shown ++ " is evaluated as DOUBLE"
  | .inexactOperand v => "Text operand " ++ v.shown ++ " loses precision as DOUBLE"
  | .outOfRange n => "BIGINT value " ++ Text.ofInt n ++ " is out of range"
  | .collation l r => "Collation order of " ++ l.shown ++ " and " ++ r.shown ++ " is not modeled"
  | .affinity l r =>
    "Affinity conversion between " ++ l.shown ++ " and " ++ r.shown ++ " is not modeled"
  | .explicitCollation l r =>
    "Explicit collation between " ++ l.shown ++ " and " ++ r.shown ++ " is not modeled"
  | .absOutOfRange n => "ABS(" ++ Text.ofInt n ++ ") is out of BIGINT range"
  | .absOverflow n => "ABS(" ++ Text.ofInt n ++ ") raises integer overflow"
  | .absOfText v => "ABS(" ++ v.shown ++ ") returns a REAL in SQLite"
  | .pivotFiltered => "Pivot row is filtered out of the EXISTS subquery; other rows may match"

/-- A defect of the expression itself, or of the call that treats it. -/
inductive Fault where
  /-- A type stands where a value is wanted. -/
  | typeHasNoValue (t : CastTarget)
  /-- A dialect has no such function. -/
  | unregistered (f : FunctionName) (d : Dialect)
  /-- A function has the wrong number of arguments. -/
  | argumentCount (name : Text) (variadic : Bool) (expected got : Nat)
  /-- A value is to take the common type of expressions that are all null. -/
  | noCommonType (v : Scalar) (count : Nat)
  /-- A value that is no integer stands where one is wanted. -/
  | notAnInteger (v : Scalar)
  /-- A value that is no text stands where one is wanted. -/
  | notText (v : Scalar)
  /-- Null stands where a truth value is wanted. -/
  | nullTruth
  /-- Null stands where a number is wanted. -/
  | nullNumber
deriving DecidableEq, Repr

/-- The wording of a fault. -/
def Fault.message : Fault → Text
  | .typeHasNoValue t =>
    "Type literal " ++ CastTarget.vocabulary.qualifiedName t ++ " has no value"
  | .unregistered f d =>
    "Function " ++ FunctionName.vocabulary.name f ++ " is not registered for dialect " ++ d.label
  | .argumentCount name variadic expected got =>
    name ++ " expects " ++ (if variadic then "at least " else "") ++ Text.ofNat expected
      ++ " arguments, got " ++ Text.ofNat got
  | .noCommonType v count =>
    "Cannot coerce " ++ v.shown ++ " to most general type None of " ++ Text.ofNat count
      ++ " expressions"
  | .notAnInteger v => v.shown ++ " is not an integer"
  | .notText v => v.shown ++ " is not text"
  | .nullTruth => "NULL has no boolean value; check is_null first"
  | .nullNumber => "NULL has no numeric value; check is_null first"

/-- A construct that not every dialect can express. -/
inductive Construct where
  | connective (op : Connective)
  | function (f : FunctionName)
deriving DecidableEq, Repr

/-- The name of a construct. -/
def Construct.label : Construct → Text
  | .connective op => Connective.vocabulary.qualifiedName op
  | .function f => FunctionName.vocabulary.qualifiedName f

/-- Why the attributes of the object that holds the settings are not overridden. -/
inductive SettingError where
  /-- There is no attribute of this name. -/
  | unknown (name : Text)
  /-- The attribute of this name cannot be set. -/
  | readOnly (name : Text)
  /-- The attribute of this name is not set to such a value. -/
  | wrongType (name : Text)
  /-- What starts a block has been overridden itself. -/
  | notCallable
  /-- The object is given twice. -/
  | selfGiven
deriving DecidableEq, Repr

/-- Why an expression has no value, or no text. -/
inductive Failure where
  | discard (reason : Discard)
  | fault (f : Fault)
  /-- An integer has no place among the signed 64-bit integers. -/
  | outOfRange (n : Int)
  /-- An integer numeral has more digits than are read. -/
  | tooManyDigits (count : Nat)
  /-- A decimal number lies beyond all that can be rounded. -/
  | decimalOverflow
  /-- The dialect has no way to write a construct. -/
  | unsupported (c : Construct) (d : Dialect)
  /-- A function is written with too few arguments. -/
  | missingArgument
  /-- The expression was refused before use, because of a construct that the dialect lacks. -/
  | rejected (c : Construct) (d : Dialect)
  /-- Settings are not overridden. -/
  | setting (e : SettingError)
deriving DecidableEq, Repr

/-- The greatest number of digits of an integer that is read or written. -/
def maxDigits : Nat := 4300

/-- The message about an integer beyond the signed 64-bit range. An integer of too many digits is
not shown. -/
def outOfRangeMessage (n : Int) : Text :=
  if n.natAbs < tenTo maxDigits then Text.ofInt n ++ " is outside the signed 64-bit range"
  else "Exceeds the limit (" ++ Text.ofNat maxDigits
    ++ " digits) for integer string conversion; use sys.set_int_max_str_digits() to increase the limit"

/-- The message about a construct that a dialect lacks. -/
def unsupportedMessage (c : Construct) (d : Dialect) : Text :=
  c.label ++ " is not supported by " ++ d.rendererName

/-- The wording of a failure; none where there is nothing more to say than its kind. -/
def Failure.message : Failure → Text
  | .discard reason => reason.message
  | .fault f => f.message
  | .outOfRange n => outOfRangeMessage n
  | .tooManyDigits count =>
    "Exceeds the limit (" ++ Text.ofNat maxDigits
      ++ " digits) for integer string conversion: value has " ++ Text.ofNat count
      ++ " digits; use sys.set_int_max_str_digits() to increase the limit"
  | .decimalOverflow => ""
  | .unsupported c d => unsupportedMessage c d
  | .missingArgument => ""
  | .rejected c d => unsupportedMessage c d
  | .setting _ => ""

end PivotOracle
