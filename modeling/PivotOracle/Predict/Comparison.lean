import PivotOracle.Predict.Arithmetic

/-!
# Comparison

How two values compare. MySQL compares two texts by a collation, predicted for letters, digits and
blanks alone, and all else as numbers. SQLite compares two texts symbol by symbol and puts every
integer before every text, unless the affinity of a column converts one of the two first.

* `compareValues` — the order of two values that are not null.
* `ComparisonOperator.apply`, `between`, `isIn` — the operators.
-/

namespace PivotOracle

/-- Whether the collation orders a character as its lower-case letter, blank or digit. -/
def isCollationSafe (c : Char) : Bool := c.isAlphanum || c = ' '

/-- A text with capitals of the Latin alphabet in lower case. -/
def Text.lowerLatin (t : Text) : Text :=
  t.map fun
    | .char c => .char c.toLower
    | s => s

/-- The order of two texts. -/
def compareText (d : Dialect) (l r : Text) : Except Failure Ordering :=
  match d with
  | .sqlite => .ok (l.compare r)
  | .mysql =>
    if l.allChars isCollationSafe && r.allChars isCollationSafe then
      .ok (l.lowerLatin.compare r.lowerLatin)
    else .error (.discard (.collation (.text l) (.text r)))

/-- The number of a value in a numeric comparison. -/
inductive Numeric where
  | int (n : Bigint)
  | double (x : Binary64)
deriving DecidableEq, Repr

/-- The double nearest to a signed 64-bit integer. -/
def Bigint.toDouble (n : Bigint) : Binary64 := (Binary64.ofInt? n.val).getD (.zero false)

/-- The number of a scalar in a numeric comparison. -/
def Scalar.numeric : Scalar → Except Failure Numeric
  | .null => .error (.fault .nullNumber)
  | .int n => .ok (.int n)
  | .text t => do return .double (← readDouble numeralDigit t)

/-- A number as a double. -/
def Numeric.toDouble : Numeric → Binary64
  | .int n => n.toDouble
  | .double x => x

/-- Two integers compare exactly, all other numbers as doubles. -/
def Numeric.compare : Numeric → Numeric → Ordering
  | .int a, .int b => Ord.compare a.val b.val
  | a, b => Ord.compare a.toDouble.scaled b.toDouble.scaled

/-- The order of two values that are not null. `affinity` says whether one of the operands carries a
column affinity. -/
def compareValues (d : Dialect) (affinity : Bool) (l r : Scalar) : Except Failure Ordering :=
  match l, r with
  | .text a, .text b => compareText d a b
  | _, _ =>
    match d with
    | .sqlite =>
      if l.isText || r.isText then
        if affinity then .error (.discard (.affinity l r))
        else .ok (if l.isText then .gt else .lt)
      else do
        let a ← l.expectInt
        let b ← r.expectInt
        return Ord.compare a.val b.val
    | .mysql => do
      let a ← l.numeric
      let b ← r.numeric
      return a.compare b

/-- Whether a comparison holds of values in a given order. -/
def ComparisonOperator.holds : ComparisonOperator → Ordering → Bool
  | .eq, o => o = .eq
  | .nullSafeEq, o => o = .eq
  | .ne, o => o ≠ .eq
  | .lt, o => o = .lt
  | .le, o => o ≠ .gt
  | .gt, o => o = .gt
  | .ge, o => o ≠ .lt

/-- The value of a comparison. Null is equal to null alone for the null-safe operator, and makes every
other comparison null. `collated` says whether an operand names its collation. -/
def ComparisonOperator.apply (d : Dialect) (affinity collated : Bool) (op : ComparisonOperator)
    (l r : Scalar) : Except Failure Scalar :=
  if l.isNull || r.isNull then
    .ok (if op = .nullSafeEq then .ofBool (l.isNull && r.isNull) else .null)
  else if collated && l.isText && r.isText then .error (.discard (.explicitCollation l r))
  else do return .ofBool (op.holds (← compareValues d affinity l r))

/-- The value of a test whether a value lies between two others. -/
def between (d : Dialect) (negated : Bool) (v low high : Scalar) : Except Failure Scalar := do
  let above ← ComparisonOperator.ge.apply d true false v low
  let below ← ComparisonOperator.le.apply d true false v high
  negate negated (← Connective.and.apply d above below)

/-- The value of a test whether a value that is not null is among candidates, of which those compared
so far were different or, with `sawNull`, null. The first equal candidate ends it. -/
def isAmong (d : Dialect) (negated : Bool) (v : Scalar) : Bool → List Scalar →
    Except Failure Scalar
  | sawNull, [] => if sawNull then .ok .null else negate negated (.ofBool false)
  | sawNull, c :: candidates => do
    let equal ← ComparisonOperator.eq.apply d true false v c
    if equal.isNull then isAmong d negated v true candidates
    else if ← equal.isTrue then negate negated (.ofBool true)
    else isAmong d negated v sawNull candidates

/-- The value of a test whether a value is among candidates; null for a null value. -/
def isIn (d : Dialect) (negated : Bool) (v : Scalar) (candidates : List Scalar) :
    Except Failure Scalar :=
  if v.isNull then .ok .null else isAmong d negated v false candidates

end PivotOracle
