import Mathlib.Data.List.Basic
import PivotOracle.Proofs.Outcome
import PivotOracle.Proofs.Tree

/-!
# Outcomes of evaluation

What an expression may have as its value, and how its evaluation may fail, follows from the texts that
it holds and from the calls in it: neither operators nor functions leave a closed set of texts and
failures.

* `commonType_eq` — the most general of types is text where there is one, else integer where there is
  one, wherever they stand.
* `evaluateCall_yields` — no function of a dialect leaves a closed set.
* `Expr.evaluate_yields` — no evaluation leaves a closed set that has the texts of the expression.
-/

namespace PivotOracle

/-! ### The most general type -/

theorem commonTypeFrom_text (types : List ValueType) :
    commonTypeFrom (some .text) (types.map .ok) = .ok (some .text) := by
  induction types with
  | nil => rfl
  | cons t types ih => cases t <;> exact ih

theorem commonTypeFrom_integer (types : List ValueType) :
    commonTypeFrom (some .integer) (types.map .ok) =
      .ok (some (if .text ∈ types then .text else .integer)) := by
  induction types with
  | nil => rfl
  | cons t types ih =>
      cases t with
      | null =>
          change commonTypeFrom (some .integer) (types.map .ok) = _
          simpa using ih
      | integer =>
          change commonTypeFrom (some .integer) (types.map .ok) = _
          simpa using ih
      | text =>
          change commonTypeFrom (some .text) (types.map .ok) = _
          simpa using commonTypeFrom_text types

/-- The most general type does not depend on where the types stand: it is text where one of them is,
else integer where one of them is, and there is none where all are null. -/
theorem commonType_eq (types : List ValueType) :
    commonType (types.map .ok) =
      .ok (if .text ∈ types then some .text else if .integer ∈ types then some .integer else none) := by
  unfold commonType
  induction types with
  | nil => rfl
  | cons t types ih =>
      cases t with
      | null =>
          change commonTypeFrom none (types.map .ok) = _
          simpa using ih
      | integer =>
          change commonTypeFrom (some .integer) (types.map .ok) = _
          rw [commonTypeFrom_integer]
          split <;> simp_all
      | text =>
          change commonTypeFrom (some .text) (types.map .ok) = _
          simpa using commonTypeFrom_text types

variable {d : Dialect} {A : Text → Prop} {F : Failure → Prop}

/-- A value that is not null takes the most general type, if there is one or if the fault of having none
is allowed. -/
theorem castToCommonType_yields (closed : Closed d A F) (mysql : d = .mysql) {v : Scalar}
    (text : v.TextIn A) {types : List ValueType}
    (typed : v.isNull = false →
      (∃ t ∈ types, t ≠ .null) ∨ ∀ w count, F (.fault (.noCommonType w count))) :
    Yields F (fun w => w.TextIn A) (castToCommonType v (types.map .ok)) := by
  unfold castToCommonType
  split
  · exact text
  · rename_i notNull
    have signed := (Scalar.castSigned_yields closed mysql text).mono
      fun w h => textIn_of_isText_eq_false (A := A) h.1
    rw [commonType_eq]
    split
    · exact Scalar.castText_textIn closed text
    · rename_i noText
      split
      · exact signed
      · rename_i noInteger
        -- No type is that of texts or integers: then either all of them are null, or the fault is allowed.
        rcases typed (Bool.eq_false_iff.mpr notNull) with ⟨t, mem, nonNull⟩ | faults
        · cases t with
          | null => exact absurd rfl nonNull
          | integer => exact absurd mem noInteger
          | text => exact absurd mem noText
        · exact faults _ _

/-! ### Functions -/

/-- The types of arguments that have values. -/
def argumentTypes (arguments : List Expr) (values : List Scalar) : List ValueType :=
  List.zipWith Expr.argumentType arguments values

theorem evaluateCall_eq (definition : FunctionDefinition) (arguments : List Expr)
    (values : List Scalar) :
    evaluateCall definition arguments values =
      definition.evaluate values ((argumentTypes arguments values).map .ok) := by
  rw [evaluateCall, argumentTypes, List.map_zipWith]

/-- Where no column is declared to hold null alone, a value that is not null has a type that is not
null. -/
theorem Expr.argumentType_ne_null {e : Expr} (typed : ∀ c w, e = .column c w → c.datatype ≠ .null)
    {v : Scalar} (notNull : v.isNull = false) : e.argumentType v ≠ .null := by
  have datatype : v.datatype ≠ .null := by
    cases v with
    | null => cases notNull
    | int n => simp [Scalar.datatype]
    | text t => simp [Scalar.datatype]
  cases e with
  | column c w => exact typed c w rfl
  | _ => exact datatype

/-- An argument that is not null brings a type that is not null. -/
theorem exists_argumentType_ne_null {arguments : List Expr} {values : List Scalar}
    (lengths : arguments.length = values.length)
    (typed : ∀ e ∈ arguments, ∀ c w, e = .column c w → c.datatype ≠ .null)
    {v : Scalar} (mem : v ∈ values) (notNull : v.isNull = false) :
    ∃ t ∈ argumentTypes arguments values, t ≠ .null := by
  induction arguments generalizing values with
  | nil =>
      have empty : values = [] := List.length_eq_zero_iff.mp lengths.symm
      rw [empty] at mem
      cases mem
  | cons e arguments ih =>
      cases values with
      | nil => cases mem
      | cons w values =>
          obtain ⟨here, below⟩ := List.forall_mem_cons.mp typed
          rcases List.mem_cons.mp mem with rfl | mem
          · exact ⟨_, List.mem_cons_self, Expr.argumentType_ne_null here notNull⟩
          · obtain ⟨t, memType, nonNull⟩ := ih (by simpa using lengths) below mem
            exact ⟨t, List.mem_cons_of_mem _ memType, nonNull⟩

/-- A value that is the cast of an argument takes the most general type of the arguments. -/
theorem castToCommonType_argumentTypes_yields (closed : Closed d A F) (mysql : d = .mysql)
    {arguments : List Expr} {values : List Scalar} (lengths : arguments.length = values.length)
    (own : ∀ e ∈ arguments, ∀ g, e.OwnFault d g → F (.fault g)) {v : Scalar} (text : v.TextIn A)
    (argument : v.isNull = false → ∃ w ∈ values, w.isNull = false) :
    Yields F (fun w => w.TextIn A)
      (castToCommonType v ((argumentTypes arguments values).map .ok)) := by
  refine castToCommonType_yields closed mysql text fun notNull => ?_
  by_cases typed : ∀ e ∈ arguments, ∀ c w, e = .column c w → c.datatype ≠ .null
  · obtain ⟨w, mem, nonNull⟩ := argument notNull
    exact .inl (exists_argumentType_ne_null lengths typed mem nonNull)
  · -- The column that is declared to hold null alone has the fault of its own.
    push Not at typed
    obtain ⟨e, mem, c, w, rfl, nullType⟩ := typed
    exact .inr fun v count => own _ mem _ (.untyped nullType w v count)

theorem coalesce_mem_or_null (values : List Scalar) :
    (coalesce values ∈ values ∧ (coalesce values).isNull = false) ∨ coalesce values = .null := by
  unfold coalesce
  cases found : values.find? fun v => !v.isNull with
  | none => exact .inr rfl
  | some v =>
      refine .inl ⟨List.mem_of_find?_eq_some found, ?_⟩
      simpa using List.find?_some found

theorem coalesce_textIn {values : List Scalar} (texts : ∀ v ∈ values, v.TextIn A) :
    (coalesce values).TextIn A := by
  rcases coalesce_mem_or_null values with ⟨mem, -⟩ | null
  · exact texts _ mem
  · rw [null]
    exact textIn_null

theorem Scalar.isNull_castText (v : Scalar) : v.castText.isNull = v.isNull := by
  cases v <;> rfl

theorem branchOn_yields (closed : Closed d A F) {condition l r : Scalar}
    (test : condition.TextIn A) :
    Yields F (fun w => w = l ∨ w = r) (branchOn d condition l r) := by
  refine (truthOf_yields closed test).bind fun truth _ => ?_
  rw [yields_pure]
  split
  · exact .inl rfl
  · exact .inr rfl

namespace FunctionRule

theorem ofSigned_yields (closed : Closed d A F) (mysql : d = .mysql)
    {value : Bigint → Except Failure Scalar}
    (value_yields : ∀ n, Yields F (fun w => w.TextIn A) (value n))
    {v : Scalar} (text : v.TextIn A) (rest : List Scalar) (types : List TypeResult) :
    Yields F (fun w => w.TextIn A) (ofSigned value (v :: rest) types) := by
  change Yields F _ (if v.isNull then .ok .null else do value (← (← v.castSigned).expectInt))
  split
  · exact textIn_null
  · rename_i notNull
    refine (Scalar.castSigned_yields closed mysql text).bind fun w h => ?_
    have nonNull := h.2 (Bool.eq_false_iff.mpr notNull)
    exact (Scalar.expectInt_yields nonNull h.1).bind fun n _ => value_yields n

/-- The magnitude of an integer is in range, or it is that of the least one and discarded. -/
theorem magnitude_yields (closed : Closed d A F) (n : Bigint) {reason : Discard}
    (noReading : reason.ofReading = false) :
    Yields F (fun w => w.TextIn A)
      (if n.val = minBigint then .error (.discard reason) else Scalar.ofInt n.val.natAbs) := by
  split
  · exact closed.discard _ noReading
  · rename_i notLeast
    obtain ⟨m, magnitude⟩ := Scalar.ofInt_natAbs notLeast
    rw [magnitude]
    exact textIn_int

theorem onesCount_le (n : Int) : onesCount n ≤ 64 := by
  have bound := List.countP_le_length (p := fun i => (BitVec.ofInt 64 n).getLsbD i)
    (l := List.range 64)
  simpa [onesCount] using bound

theorem mysqlBitCount_yields (n : Bigint) :
    Yields F (fun w => w.TextIn A) (Scalar.ofInt (onesCount n.val)) := by
  have bound := onesCount_le n.val
  have inRange : minBigint ≤ (onesCount n.val : Int) ∧ (onesCount n.val : Int) ≤ maxBigint := by
    simp only [minBigint, maxBigint]
    omega
  rw [Scalar.ofInt_eq_ok inRange]
  exact textIn_int

theorem mysqlBenchmark_yields (n : Bigint) :
    Yields F (fun w => w.TextIn A) (if n.val < 0 then .ok .null else Scalar.ofInt 0) := by
  split
  · exact textIn_null
  · exact textIn_int

theorem mysqlCoalesce_yields (closed : Closed d A F) (mysql : d = .mysql)
    {arguments : List Expr} {values : List Scalar} (lengths : arguments.length = values.length)
    (texts : ∀ v ∈ values, v.TextIn A)
    (own : ∀ e ∈ arguments, ∀ g, e.OwnFault d g → F (.fault g)) :
    Yields F (fun w => w.TextIn A)
      (mysqlCoalesce values ((argumentTypes arguments values).map .ok)) := by
  have text := Scalar.castText_textIn closed (coalesce_textIn texts)
  refine castToCommonType_argumentTypes_yields closed mysql lengths own text fun notNull => ?_
  rw [Scalar.isNull_castText] at notNull
  rcases coalesce_mem_or_null values with ⟨mem, nonNull⟩ | null
  · exact ⟨_, mem, nonNull⟩
  · rw [null] at notNull
    cases notNull

theorem mysqlIf_yields (closed : Closed d A F) (mysql : d = .mysql) {a b c : Expr}
    {condition l r : Scalar} (test : condition.TextIn A) (left : l.TextIn A) (right : r.TextIn A)
    (own : ∀ e ∈ [a, b, c], ∀ g, e.OwnFault d g → F (.fault g)) :
    Yields F (fun w => w.TextIn A)
      (mysqlIf [condition, l, r] ((argumentTypes [a, b, c] [condition, l, r]).map .ok)) := by
  subst mysql
  refine (branchOn_yields closed test).bind fun v choice => ?_
  have branches : ∀ e ∈ [b, c], ∀ g, e.OwnFault .mysql g → F (.fault g) :=
    (List.forall_mem_cons.mp own).2
  change Yields F _ (castToCommonType v ((argumentTypes [b, c] [l, r]).map .ok))
  refine castToCommonType_argumentTypes_yields closed rfl rfl branches ?_
    fun notNull => ⟨v, ?_, notNull⟩
  · rcases choice with rfl | rfl
    · exact left
    · exact right
  · rcases choice with rfl | rfl <;> simp

theorem mysqlIfNull_yields (closed : Closed d A F) (mysql : d = .mysql) {a b : Expr}
    {v w : Scalar} (first : v.TextIn A) (second : w.TextIn A)
    (own : ∀ e ∈ [a, b], ∀ g, e.OwnFault d g → F (.fault g)) :
    Yields F (fun w => w.TextIn A)
      (mysqlIfNull [v, w] ((argumentTypes [a, b] [v, w]).map .ok)) := by
  change Yields F _ (if v.isNull then castToCommonType w _ else castToCommonType v _)
  split
  · exact castToCommonType_argumentTypes_yields closed mysql rfl own second
      fun notNull => ⟨w, by simp, notNull⟩
  · exact castToCommonType_argumentTypes_yields closed mysql rfl own first
      fun notNull => ⟨v, by simp, notNull⟩

theorem sqliteAbs_yields (closed : Closed d A F) (v : Scalar) (types : List TypeResult) :
    Yields F (fun w => w.TextIn A) (sqliteAbs [v] types) := by
  cases v with
  | null => exact textIn_null
  | text t => exact closed.discard _ rfl
  | int n =>
      exact magnitude_yields closed n rfl

theorem sqliteIif_yields (closed : Closed d A F) (sqlite : d = .sqlite) {condition l r : Scalar}
    (test : condition.TextIn A) (left : l.TextIn A) (right : r.TextIn A)
    (types : List TypeResult) :
    Yields F (fun w => w.TextIn A) (sqliteIif [condition, l, r] types) := by
  subst sqlite
  refine (branchOn_yields closed test).mono fun v choice => ?_
  rcases choice with rfl | rfl
  · exact left
  · exact right

end FunctionRule

/-- A number of arguments is declared where it is the arity, or beyond it for a variadic function. -/
theorem FunctionDefinition.checkCount_eq_ok {definition : FunctionDefinition} {got : Nat} :
    definition.checkCount got = .ok () ↔
      (definition.variadic = true ∧ definition.arity ≤ got) ∨ got = definition.arity := by
  unfold FunctionDefinition.checkCount
  split <;> simp_all

/-- No function that a dialect has leaves a closed set of texts and failures, given as many arguments
as it takes. -/
theorem evaluateCall_yields (closed : Closed d A F) {f : FunctionName}
    {definition : FunctionDefinition} (registered : definitionOf d f = .ok definition)
    {arguments : List Expr} (counted : definition.checkCount arguments.length = .ok ())
    {values : List Scalar} (lengths : arguments.length = values.length)
    (texts : ∀ v ∈ values, v.TextIn A)
    (own : ∀ e ∈ arguments, ∀ g, e.OwnFault d g → F (.fault g)) :
    Yields F (fun w => w.TextIn A) (evaluateCall definition arguments values) := by
  rw [evaluateCall_eq]
  have counts := FunctionDefinition.checkCount_eq_ok.mp counted
  cases d with
  | mysql =>
      cases f with
      | iif => cases registered
      | abs =>
          cases registered
          obtain ⟨v, rfl⟩ := List.length_eq_one_iff.mp (lengths.symm.trans (by simpa using counts))
          exact FunctionRule.ofSigned_yields closed rfl
            (fun n => FunctionRule.magnitude_yields closed n rfl)
            (texts v (by simp)) [] ((argumentTypes arguments [v]).map .ok)
      | bitCount =>
          cases registered
          obtain ⟨v, rfl⟩ := List.length_eq_one_iff.mp (lengths.symm.trans (by simpa using counts))
          exact FunctionRule.ofSigned_yields closed rfl FunctionRule.mysqlBitCount_yields
            (texts v (by simp)) [] ((argumentTypes arguments [v]).map .ok)
      | benchmark =>
          cases registered
          obtain ⟨v, w, rfl⟩ := List.length_eq_two.mp (lengths.symm.trans (by simpa using counts))
          exact FunctionRule.ofSigned_yields closed rfl FunctionRule.mysqlBenchmark_yields
            (texts v (by simp)) [w] ((argumentTypes arguments [v, w]).map .ok)
      | coalesce =>
          cases registered
          exact FunctionRule.mysqlCoalesce_yields closed rfl lengths texts own
      | ifElse =>
          cases registered
          obtain ⟨a, b, c, rfl⟩ := List.length_eq_three.mp (by simpa using counts)
          obtain ⟨u, v, w, rfl⟩ := List.length_eq_three.mp lengths.symm
          exact FunctionRule.mysqlIf_yields closed rfl (texts u (by simp)) (texts v (by simp))
            (texts w (by simp)) own
      | ifNull =>
          cases registered
          obtain ⟨a, b, rfl⟩ := List.length_eq_two.mp (by simpa using counts)
          obtain ⟨v, w, rfl⟩ := List.length_eq_two.mp lengths.symm
          exact FunctionRule.mysqlIfNull_yields closed rfl (texts v (by simp)) (texts w (by simp))
            own
  | sqlite =>
      cases f with
      | bitCount => cases registered
      | benchmark => cases registered
      | ifElse => cases registered
      | abs =>
          cases registered
          obtain ⟨v, rfl⟩ := List.length_eq_one_iff.mp (lengths.symm.trans (by simpa using counts))
          exact FunctionRule.sqliteAbs_yields closed v ((argumentTypes arguments [v]).map .ok)
      | coalesce =>
          cases registered
          exact coalesce_textIn texts
      | ifNull =>
          cases registered
          exact coalesce_textIn texts
      | iif =>
          cases registered
          obtain ⟨u, v, w, rfl⟩ :=
            List.length_eq_three.mp (lengths.symm.trans (by simpa using counts))
          exact FunctionRule.sqliteIif_yields closed rfl (texts u (by simp)) (texts v (by simp))
            (texts w (by simp)) ((argumentTypes arguments [u, v, w]).map .ok)

/-- A function of the dialect, unless the fault of lacking it is allowed. -/
theorem definitionOf_yields {f : FunctionName}
    (lacking : ∀ g, definitionOf d f = .error (.fault g) → F (.fault g)) :
    Yields F (fun definition => definitionOf d f = .ok definition) (definitionOf d f) := by
  cases found : (registry d).lookup f with
  | none =>
      have lacks : definitionOf d f = .error (.fault (.unregistered f d)) := by
        rw [definitionOf, found]
      rw [lacks]
      exact lacking _ lacks
  | some definition =>
      rw [definitionOf, found]
      rfl

theorem checkCount_yields {definition : FunctionDefinition} {got : Nat}
    (refused : ∀ g, definition.checkCount got = .error (.fault g) → F (.fault g)) :
    Yields F (fun _ => definition.checkCount got = .ok ()) (definition.checkCount got) := by
  unfold FunctionDefinition.checkCount at refused ⊢
  split
  · rfl
  · rename_i uncounted
    exact refused _ (if_neg uncounted)

/-! ### Trees -/

theorem evaluateAll_yields {F : Failure → Prop} {P : Scalar → Prop} {es : List Expr}
    (each : ∀ e ∈ es, Yields F P (e.evaluate d)) :
    Yields F (fun values => es.length = values.length ∧ ∀ v ∈ values, P v)
      (Expr.evaluateAll d es) := by
  induction es with
  | nil => simp [Expr.evaluateAll]
  | cons e es ih =>
      obtain ⟨head, tail⟩ := List.forall_mem_cons.mp each
      refine head.bind fun v hv => (ih tail).bind fun values h => ?_
      exact ⟨by simp [h.1], List.forall_mem_cons.mpr ⟨hv, h.2⟩⟩

theorem requireSafeStart_yields (closed : Closed d A F) (v : Scalar) :
    Yields F (fun _ => True) (requireSafeStart v) := by
  cases v with
  | null => trivial
  | int n => trivial
  | text t =>
      simp only [requireSafeStart]
      split
      · exact closed.discard _ rfl
      · trivial

theorem evaluateArguments_yields (closed : Closed d A F) {P : Scalar → Prop} {es : List Expr}
    (each : ∀ e ∈ es, Yields F P (e.evaluate d)) :
    Yields F (fun values => es.length = values.length ∧ ∀ v ∈ values, P v)
      (Expr.evaluateArguments d es) := by
  induction es with
  | nil => simp [Expr.evaluateArguments]
  | cons e es ih =>
      obtain ⟨head, tail⟩ := List.forall_mem_cons.mp each
      refine head.bind fun v hv => (requireSafeStart_yields closed v).bind fun _ _ =>
        (ih tail).bind fun values h => ?_
      exact ⟨by simp [h.1], List.forall_mem_cons.mpr ⟨hv, h.2⟩⟩

theorem bothHold_yields {x y : Except Failure Bool} (first : Yields F (fun _ => True) x)
    (second : Yields F (fun _ => True) y) : Yields F (fun _ => True) (bothHold x y) := by
  refine first.bind fun b _ => ?_
  split
  · exact second
  · trivial

theorem isSurelyTrue_yields (closed : Closed d A F) {x : Except Failure Scalar}
    (value : Yields F (fun w => w.TextIn A) x) : Yields F (fun _ => True) (isSurelyTrue d x) :=
  value.bind fun _ text => (truthOf_yields closed text).bind fun _ _ => trivial

theorem joinsKeepPivot_yields (closed : Closed d A F) {joins : List (JoinClause Expr)}
    (each : ∀ clause ∈ joins, Yields F (fun w => w.TextIn A) (clause.condition.evaluate d)) :
    Yields F (fun _ => True) (Expr.joinsKeepPivot d joins) := by
  induction joins with
  | nil => trivial
  | cons clause joins ih =>
      obtain ⟨head, tail⟩ := List.forall_mem_cons.mp each
      rw [Expr.joinsKeepPivot_cons]
      exact bothHold_yields (isSurelyTrue_yields closed head) (ih tail)

theorem filterKeepsPivot_yields (closed : Closed d A F) {filter : Option Expr}
    (each : ∀ e ∈ filter, Yields F (fun w => w.TextIn A) (e.evaluate d)) :
    Yields F (fun _ => True) (Expr.filterKeepsPivot d filter) := by
  cases filter with
  | none => trivial
  | some condition => exact isSurelyTrue_yields closed (each condition rfl)

theorem keepsPivot_yields (closed : Closed d A F) {query : Select Expr}
    (each : ∀ e ∈ query.joins.map (·.condition) ++ query.filter.toList,
      Yields F (fun w => w.TextIn A) (e.evaluate d)) :
    Yields F (fun _ => True) (query.keepsPivot d) := by
  refine bothHold_yields (joinsKeepPivot_yields closed fun clause mem => ?_)
    (filterKeepsPivot_yields closed fun e mem => ?_)
  · exact each _ (List.mem_append_left _ (List.mem_map_of_mem mem))
  · exact each _ (List.mem_append_right _ (Option.mem_toList.mpr mem))

/-- Texts and failures admit an expression: the texts that it holds and that evaluation does not stop
at are among the texts, and the faults that are brought about where it is evaluated are among the
failures. -/
structure Expr.Admitted (d : Dialect) (A : Text → Prop) (F : Failure → Prop) (e : Expr) : Prop where
  texts : ∀ t, e.Holds t → requireSafeStart (.text t) = .ok () → A t
  faults : ∀ (n : Expr) (g : Fault), n.EvaluatedIn e → n.OwnFault d g → F (.fault g)

theorem Expr.Admitted.part {p e : Expr} (mem : p ∈ e.evaluatedParts) (h : e.Admitted d A F) :
    p.Admitted d A F :=
  ⟨fun t held => h.texts t (held.part (mem_parts_of_mem_evaluatedParts mem)),
    fun n g evaluated => h.faults n g (.part mem evaluated)⟩

/-- The value that a constant or a column has in a tree is one that reads the same everywhere. -/
theorem Expr.Admitted.stored_yields (closed : Closed d A F) {e : Expr} (h : e.Admitted d A F)
    {v : Scalar} (stored : e.stored? = some v) :
    Yields F (fun w => w.TextIn A) (do requireSafeStart v; return v) := by
  refine (requireSafeStart_yields closed v).and_eq.bind fun _ safe => ?_
  intro t isText
  subst isText
  exact h.texts t (holds_iff.mpr (.inl stored)) safe.2

/-- The value of an expression that closed texts and failures admit has its text among these texts,
and evaluation fails with these failures alone. -/
theorem Expr.evaluate_yields (closed : Closed d A F) {e : Expr} (admitted : e.Admitted d A F) :
    Yields F (fun w => w.TextIn A) (e.evaluate d) := by
  induction e with
  | constant v => exact admitted.stored_yields closed rfl
  | column c v => exact admitted.stored_yields closed rfl
  | unary op e ih =>
      exact (ih (admitted.part (by simp [evaluatedParts, parts]))).bind fun _ text =>
        UnaryOperator.apply_yields closed op text
  | postfixTest op e ih =>
      exact (ih (admitted.part (by simp [evaluatedParts, parts]))).bind fun _ text =>
        (PostfixTest.apply_yields closed op text).mono fun _ => textIn_of_isText_eq_false
  | arithmetic op l r ihl ihr =>
      exact (ihl (admitted.part (by simp [evaluatedParts, parts]))).bind fun _ left =>
        (ihr (admitted.part (by simp [evaluatedParts, parts]))).bind fun _ right =>
          (ArithmeticOperator.apply_yields closed op left right).mono
            fun _ => textIn_of_isText_eq_false
  | comparison op l r ihl ihr =>
      exact (ihl (admitted.part (by simp [evaluatedParts, parts]))).bind fun _ left =>
        (ihr (admitted.part (by simp [evaluatedParts, parts]))).bind fun _ right =>
          (ComparisonOperator.apply_yields closed _ _ op left right).mono
            fun _ => textIn_of_isText_eq_false
  | connective op l r ihl ihr =>
      exact (ihl (admitted.part (by simp [evaluatedParts, parts]))).bind fun _ left =>
        (ihr (admitted.part (by simp [evaluatedParts, parts]))).bind fun _ right =>
          (Connective.apply_yields closed op left right).mono fun _ => textIn_of_isText_eq_false
  | collate e collation ih => exact ih (admitted.part (by simp [evaluatedParts, parts]))
  | typeName t => exact admitted.faults _ _ (.self _) (.typeName t)
  | cast e target ih =>
      exact (ih (admitted.part (by simp [evaluatedParts, parts]))).bind fun _ text =>
        castTo_yields closed target text
  | between negated e low high ih ihLow ihHigh =>
      exact (ih (admitted.part (by simp [evaluatedParts, parts]))).bind fun _ subject =>
        (ihLow (admitted.part (by simp [evaluatedParts, parts]))).bind fun _ lower =>
          (ihHigh (admitted.part (by simp [evaluatedParts, parts]))).bind fun _ upper =>
            (between_yields closed negated subject lower upper).mono
              fun _ => textIn_of_isText_eq_false
  | isIn negated e candidates ih ihs =>
      refine (ih (admitted.part (by simp [evaluatedParts, parts]))).bind fun _ subject => ?_
      have each : ∀ c ∈ candidates, Yields F (fun w => w.TextIn A) (c.evaluate d) :=
        fun c mem => ihs c mem (admitted.part (by simp [evaluatedParts, parts, mem]))
      exact (evaluateAll_yields each).bind fun _ values =>
        (isIn_yields closed negated subject values.2).mono fun _ => textIn_of_isText_eq_false
  | sortTerm term ih =>
      rw [evaluate_sortTerm]
      exact ih (admitted.part (by simp [evaluatedParts, parts]))
  | join clause ih =>
      rw [evaluate_join]
      exact ih (admitted.part (by simp [evaluatedParts, parts]))
  | existsRow negated query ih =>
      rw [evaluate_existsRow]
      have each : ∀ c ∈ (existsRow negated query).evaluatedParts,
          Yields F (fun w => w.TextIn A) (c.evaluate d) :=
        fun c mem => ih c (mem_parts_of_mem_evaluatedParts mem) (admitted.part mem)
      have keeps := keepsPivot_yields closed each
      refine keeps.bind fun kept _ => ?_
      split
      · exact textIn_of_isText_eq_false (isText_ofBool _)
      · exact closed.discard _ rfl
  | subquery query expected ihs ih =>
      exact ih (admitted.part (by simp [evaluatedParts]))
  | call f arguments ih =>
      have each : ∀ a ∈ (call f arguments).evaluatedParts,
          Yields F (fun w => w.TextIn A) (a.evaluate d) :=
        fun a mem => ih a mem (admitted.part mem)
      have own : ∀ a ∈ arguments, ∀ g, a.OwnFault d g → F (.fault g) :=
        fun a mem g => admitted.faults a g (.part mem (.self a))
      -- What can go wrong before the arguments are evaluated are faults of the call itself, and these are admitted.
      have found := definitionOf_yields fun g lacking =>
        admitted.faults _ g (.self (.call f arguments)) (.lacking lacking)
      refine found.bind fun definition registered => ?_
      have counts := checkCount_yields fun g refused =>
        admitted.faults _ g (.self (.call f arguments)) (.argumentCount registered refused)
      refine counts.bind fun _ counted => ?_
      exact (evaluateArguments_yields closed each).bind fun values evaluated =>
        evaluateCall_yields closed registered counted evaluated.1 evaluated.2 own

end PivotOracle
