import PivotOracle.Predict.Comparison
import PivotOracle.Sql.Expr

/-!
# Functions

The functions of each dialect. A rule computes the value of a call from the values of its arguments;
the functions of MySQL that choose among their arguments also need the types of these, because the
result takes the most general of them.

* `commonType` — text where there is a text, else integer where there is one; null has no say.
* `castToCommonType` — a value as one of that type.
* `registry`, `definitionOf` — the functions of a dialect.
-/

namespace PivotOracle

/-- The type of an expression, or why it has none. -/
abbrev TypeResult := Except Failure ValueType

/-- The most general of types and one found before them. -/
def commonTypeFrom : Option ValueType → List TypeResult → Except Failure (Option ValueType)
  | found, [] => .ok found
  | found, type :: types => do
    match found, ← type with
    | found, .null => commonTypeFrom found types
    | none, t => commonTypeFrom (some t) types
    | some _, .text => commonTypeFrom (some .text) types
    | some t, .integer => commonTypeFrom (some t) types

/-- The most general of types; none where all are null. -/
def commonType (types : List TypeResult) : Except Failure (Option ValueType) :=
  commonTypeFrom none types

/-- A value as one of the most general of types. Null stays null, whatever the types are. -/
def castToCommonType (v : Scalar) (types : List TypeResult) : Except Failure Scalar :=
  if v.isNull then .ok v
  else do
    match ← commonType types with
    | some .integer => v.castSigned
    | some .text => return v.castText
    | _ => .error (.fault (.noCommonType v types.length))

/-- The value of a call from the values and the types of the arguments. -/
abbrev FunctionRule := List Scalar → List TypeResult → Except Failure Scalar

/-- A function as a dialect has it. `arity` is the number of arguments, the least one for a
variadic function. -/
structure FunctionDefinition where
  name : Text
  arity : Nat
  variadic : Bool
  evaluate : FunctionRule

/-- A call with a given number of arguments is well formed. -/
def FunctionDefinition.checkCount (f : FunctionDefinition) (got : Nat) : Except Failure Unit :=
  if f.variadic && f.arity ≤ got || got = f.arity then .ok ()
  else .error (.fault (.argumentCount f.name f.variadic f.arity got))

/-- One of two values, by a condition: the second one unless the condition is true. -/
def branchOn (d : Dialect) (condition l r : Scalar) : Except Failure Scalar := do
  return if (← truthOf d condition) = some true then l else r

/-- The first value that is not null, or null. -/
def coalesce (values : List Scalar) : Scalar :=
  (values.find? fun v => !v.isNull).getD .null

/-- The value of an argument. -/
def argument (values : List Scalar) (i : Nat) : Except Failure Scalar :=
  match values[i]? with
  | some v => .ok v
  | none => .error .missingArgument

/-- The number of ones among the 64 bits of an integer in two's complement. -/
def onesCount (n : Int) : Nat :=
  (List.range 64).countP fun i => (BitVec.ofInt 64 n).getLsbD i

namespace FunctionRule

/-- The rule of a function of the integer that its first argument is cast to; null for null. -/
def ofSigned (value : Bigint → Except Failure Scalar) : FunctionRule := fun values _ => do
  let v ← argument values 0
  if v.isNull then .ok .null
  else do value (← (← v.castSigned).expectInt)

/-- The magnitude of an integer; the least integer has none. -/
def mysqlAbs : FunctionRule :=
  ofSigned fun n =>
    if n.val = minBigint then .error (.discard (.absOutOfRange n.val))
    else Scalar.ofInt n.val.natAbs

/-- The number of ones in an integer. -/
def mysqlBitCount : FunctionRule := ofSigned fun n => Scalar.ofInt (onesCount n.val)

/-- Zero, but null for a negative count. -/
def mysqlBenchmark : FunctionRule :=
  ofSigned fun n => if n.val < 0 then .ok .null else Scalar.ofInt 0

/-- The first argument that is not null, by way of its text. -/
def mysqlCoalesce : FunctionRule := fun values types =>
  castToCommonType (coalesce values).castText types

/-- One of two arguments, by a condition. -/
def mysqlIf : FunctionRule := fun values types => do
  let condition ← argument values 0
  let l ← argument values 1
  let r ← argument values 2
  castToCommonType (← branchOn .mysql condition l r) ((types.drop 1).take 2)

/-- The first argument, or the second where that is null. -/
def mysqlIfNull : FunctionRule := fun values types => do
  let v ← argument values 0
  if v.isNull then do castToCommonType (← argument values 1) types
  else castToCommonType v types

/-- The magnitude of an integer; the least integer has none, and that of a text is no integer. -/
def sqliteAbs : FunctionRule := fun values _ => do
  match ← argument values 0 with
  | .null => .ok .null
  | .text t => .error (.discard (.absOfText (.text t)))
  | .int n =>
    if n.val = minBigint then .error (.discard (.absOverflow n.val))
    else Scalar.ofInt n.val.natAbs

/-- The first argument that is not null. -/
def sqliteCoalesce : FunctionRule := fun values _ => .ok (coalesce values)

/-- One of two arguments, by a condition. -/
def sqliteIif : FunctionRule := fun values _ => do
  let condition ← argument values 0
  let l ← argument values 1
  let r ← argument values 2
  branchOn .sqlite condition l r

end FunctionRule

/-- The functions of a dialect, in declared order. -/
def registry : Dialect → List (FunctionName × FunctionDefinition)
  | .mysql =>
    [(.abs, ⟨"ABS", 1, false, .mysqlAbs⟩),
     (.bitCount, ⟨"BIT_COUNT", 1, false, .mysqlBitCount⟩),
     (.benchmark, ⟨"BENCHMARK", 2, false, .mysqlBenchmark⟩),
     (.coalesce, ⟨"COALESCE", 2, true, .mysqlCoalesce⟩),
     (.ifElse, ⟨"IF", 3, false, .mysqlIf⟩),
     (.ifNull, ⟨"IFNULL", 2, false, .mysqlIfNull⟩)]
  | .sqlite =>
    [(.abs, ⟨"ABS", 1, false, .sqliteAbs⟩),
     (.coalesce, ⟨"COALESCE", 2, true, .sqliteCoalesce⟩),
     (.ifNull, ⟨"IFNULL", 2, false, .sqliteCoalesce⟩),
     (.iif, ⟨"IIF", 3, false, .sqliteIif⟩)]

/-- The definition of a function in a dialect. -/
def definitionOf (d : Dialect) (f : FunctionName) : Except Failure FunctionDefinition :=
  match (registry d).lookup f with
  | some definition => .ok definition
  | none => .error (.fault (.unregistered f d))

end PivotOracle
