import PivotOracle.Proofs.ReadingLimits
import PivotOracle.Proofs.Rebuild

/-!
# Agreement of the dialects

The dialects differ in how they read and compare texts. Where no text comes up in an evaluation they
agree: on the value, or in that there is none for certain. Functions are shared by name, but for the
choice between two values, which has a name of its own in SQLite.

* `Agree` — two computations have the same value, or both discard.
* `Connective.apply_agree`, `ArithmeticOperator.apply_agree`, `ComparisonOperator.apply_agree`, … —
  the operators agree on values that are no texts, and make no text of them.
* `evaluateCall_agree` — so do the functions that are shared.
* `Expr.TextFree` — a single expression that brings no text into an evaluation.
* `Expr.evaluate_agree` — evaluations without texts agree.
* `Expr.predict_agree` — and so do predictions.
-/

namespace PivotOracle

/-! ### Agreement -/

/-- A failure that is no defect: the case is given up. -/
def Failure.IsDiscard (f : Failure) : Prop := ∃ reason, f = .discard reason

/-- Two computations agree: they have the same value, one that satisfies `P`, or both discard. -/
inductive Agree {α : Type} (P : α → Prop) : Except Failure α → Except Failure α → Prop where
  | value {a : α} : P a → Agree P (.ok a) (.ok a)
  | discarded (reason reason' : Discard) :
      Agree P (.error (.discard reason)) (.error (.discard reason'))

section Rules

variable {α β : Type} {P : α → Prop} {R : β → Prop} {x y : Except Failure α}

theorem Agree.bind (h : Agree P x y) {f g : α → Except Failure β}
    (next : ∀ a, P a → Agree R (f a) (g a)) : Agree R (x >>= f) (y >>= g) := by
  cases h with
  | value holds => exact next _ holds
  | discarded reason reason' => exact .discarded reason reason'

/-- What fails with discards alone agrees with what equals it. -/
theorem Agree.of_yields (h : Yields Failure.IsDiscard P x) (same : x = y) : Agree P x y := by
  subst same
  cases x with
  | ok a => exact .value h
  | error f =>
      obtain ⟨reason, rfl⟩ := h
      exact .discarded reason reason

end Rules

/-- Texts that no reading breaks off at, and discards. -/
theorem closed_isDiscard (d : Dialect) :
    Closed d (fun t => ∀ f, t.BreaksOff d f → f.IsDiscard) Failure.IsDiscard :=
  closed_of_discard fun reason => ⟨reason, rfl⟩

/-! ### Operators -/

/-- A value that is no text is null or an integer. -/
theorem Scalar.null_or_int {v : Scalar} (notText : v.isText = false) :
    v = .null ∨ ∃ n, v = .int n := by
  cases v with
  | null => exact .inl rfl
  | int n => exact .inr ⟨n, rfl⟩
  | text t => cases notText

section Operators

variable {v l r : Scalar}

theorem truthOf_agree (notText : v.isText = false) :
    Agree (fun _ => True) (truthOf .mysql v) (truthOf .sqlite v) := by
  rcases Scalar.null_or_int notText with rfl | ⟨n, rfl⟩
  · exact .value trivial
  · exact .value trivial

theorem Connective.apply_agree (op : Connective) (left : l.isText = false)
    (right : r.isText = false) :
    Agree (·.isText = false) (op.apply .mysql l r) (op.apply .sqlite l r) :=
  (truthOf_agree left).bind fun _ _ => (truthOf_agree right).bind fun _ _ =>
    .value (isText_ofTruth _)

theorem PostfixTest.apply_agree (op : PostfixTest) (notText : v.isText = false) :
    Agree (·.isText = false) (op.apply .mysql v) (op.apply .sqlite v) :=
  (truthOf_agree notText).bind fun _ _ => .value (isText_ofBool _)

theorem bigintResult_agree (n : Int) :
    Agree (·.isText = false) (bigintResult n) (bigintResult n) :=
  .of_yields (bigintResult_yields (closed_isDiscard .mysql) n) rfl

theorem arithmeticOperand_agree (notNull : v.isNull = false) (notText : v.isText = false) :
    Agree (fun _ => True) (arithmeticOperand .mysql v) (arithmeticOperand .sqlite v) := by
  rcases Scalar.null_or_int notText with rfl | ⟨n, rfl⟩
  · cases notNull
  · exact .value trivial

theorem ArithmeticOperator.apply_agree (op : ArithmeticOperator) (left : l.isText = false)
    (right : r.isText = false) :
    Agree (·.isText = false) (op.apply .mysql l r) (op.apply .sqlite l r) := by
  unfold ArithmeticOperator.apply
  split
  · exact .value rfl
  · rename_i notNull
    simp only [Bool.or_eq_true, not_or, Bool.not_eq_true] at notNull
    exact (arithmeticOperand_agree notNull.1 left).bind fun a _ =>
      (arithmeticOperand_agree notNull.2 right).bind fun b _ => bigintResult_agree _

theorem UnaryOperator.apply_agree (op : UnaryOperator) (notText : v.isText = false) :
    Agree (·.isText = false) (op.apply .mysql v) (op.apply .sqlite v) := by
  cases op with
  | plus => exact .value notText
  | not => exact (truthOf_agree notText).bind fun _ _ => .value (isText_ofTruth _)
  | minus =>
      simp only [UnaryOperator.apply]
      split
      · exact .value rfl
      · rename_i notNull
        exact (arithmeticOperand_agree (Bool.eq_false_iff.mpr notNull) notText).bind fun a _ =>
          bigintResult_agree _

theorem castTo_signed_agree (notText : v.isText = false) :
    Agree (·.isText = false) (castTo .mysql .signed v) (castTo .sqlite .signed v) := by
  rcases Scalar.null_or_int notText with rfl | ⟨n, rfl⟩
  · exact .value rfl
  · exact .value rfl

/-- Integers compare as integers in both dialects, whatever affinities and collations say. -/
theorem compareValues_agree (affinity affinity' : Bool) (notNullLeft : l.isNull = false)
    (notNullRight : r.isNull = false) (left : l.isText = false) (right : r.isText = false) :
    Agree (fun _ => True) (compareValues .mysql affinity l r)
      (compareValues .sqlite affinity' l r) := by
  rcases Scalar.null_or_int left with rfl | ⟨m, rfl⟩
  · cases notNullLeft
  · rcases Scalar.null_or_int right with rfl | ⟨n, rfl⟩
    · cases notNullRight
    · exact .value trivial

theorem ComparisonOperator.apply_agree (op : ComparisonOperator)
    (affinity affinity' collated collated' : Bool) (left : l.isText = false)
    (right : r.isText = false) :
    Agree (·.isText = false) (op.apply .mysql affinity collated l r)
      (op.apply .sqlite affinity' collated' l r) := by
  unfold ComparisonOperator.apply
  split
  · refine .value ?_
    split <;> rfl
  · rename_i notNull
    simp only [Bool.or_eq_true, not_or, Bool.not_eq_true] at notNull
    simp only [left, Bool.and_false, Bool.false_and, Bool.false_eq_true, if_false]
    exact (compareValues_agree affinity affinity' notNull.1 notNull.2 left right).bind fun _ _ =>
      .value (isText_ofBool _)

theorem negate_agree (negated : Bool) (notText : v.isText = false) :
    Agree (·.isText = false) (negate negated v) (negate negated v) :=
  .of_yields (negate_yields negated notText) rfl

theorem between_agree (negated : Bool) (subject : v.isText = false) (lower : l.isText = false)
    (upper : r.isText = false) :
    Agree (·.isText = false) (between .mysql negated v l r) (between .sqlite negated v l r) :=
  (ComparisonOperator.apply_agree .ge true true false false subject lower).bind fun _ above =>
    (ComparisonOperator.apply_agree .le true true false false subject upper).bind fun _ below =>
      (Connective.apply_agree .and above below).bind fun _ both => negate_agree negated both

theorem isAmong_agree (negated : Bool) (subject : v.isText = false) {candidates : List Scalar}
    (each : ∀ c ∈ candidates, c.isText = false) (sawNull : Bool) :
    Agree (·.isText = false) (isAmong .mysql negated v sawNull candidates)
      (isAmong .sqlite negated v sawNull candidates) := by
  induction candidates generalizing sawNull with
  | nil =>
      cases sawNull with
      | false => exact negate_agree negated (isText_ofBool false)
      | true => exact .value rfl
  | cons c candidates ih =>
      obtain ⟨here, rest⟩ := List.forall_mem_cons.mp each
      refine (ComparisonOperator.apply_agree .eq true true false false subject here).bind
        fun equal notText => ?_
      split
      · exact ih rest true
      · rename_i notNull
        rcases Scalar.null_or_int notText with rfl | ⟨n, rfl⟩
        · exact absurd rfl notNull
        · change Agree _ (if decide (n.val ≠ 0) = true then _ else _)
            (if decide (n.val ≠ 0) = true then _ else _)
          split
          · exact negate_agree negated (isText_ofBool true)
          · exact ih rest sawNull

theorem isIn_agree (negated : Bool) (subject : v.isText = false) {candidates : List Scalar}
    (each : ∀ c ∈ candidates, c.isText = false) :
    Agree (·.isText = false) (isIn .mysql negated v candidates)
      (isIn .sqlite negated v candidates) := by
  unfold isIn
  split
  · exact .value rfl
  · exact isAmong_agree negated subject each false

end Operators

/-! ### Functions -/

/-- A function of MySQL and the function of SQLite that computes the same. -/
inductive FunctionName.Shared : FunctionName → FunctionName → Prop where
  | abs : Shared .abs .abs
  | coalesce : Shared .coalesce .coalesce
  | ifNull : Shared .ifNull .ifNull
  | choice : Shared .ifElse .iif

/-- A value is the integer that its text is cast to. -/
theorem Scalar.castSigned_castText {v : Scalar} (notText : v.isText = false) :
    v.castText.castSigned = .ok v := by
  rcases Scalar.null_or_int notText with rfl | ⟨n, rfl⟩
  · rfl
  · simp only [castText, castSigned, readSigned_ofInt]
    rfl

theorem Scalar.castSigned_of_notText {v : Scalar} (notText : v.isText = false) :
    v.castSigned = .ok v := by
  rcases Scalar.null_or_int notText with rfl | ⟨n, rfl⟩ <;> rfl

/-- Values that are no texts, with the expressions that they are the values of, in order. A column
among these is one of integers. -/
structure TextFreeArguments (arguments : List Expr) (values : List Scalar) : Prop where
  lengths : arguments.length = values.length
  columns : ∀ e ∈ arguments, ∀ c w, e = .column c w → c.datatype = .integer
  values : ∀ v ∈ values, v.isText = false

namespace TextFreeArguments

variable {arguments : List Expr} {values : List Scalar}

/-- Arguments without a text have no type of text. -/
theorem text_not_mem_types (h : TextFreeArguments arguments values) :
    .text ∉ argumentTypes arguments values := by
  intro mem
  rw [argumentTypes, ← List.map_uncurry_zip_eq_zipWith] at mem
  obtain ⟨⟨e, v⟩, paired, type⟩ := List.mem_map.mp mem
  obtain ⟨argument, value⟩ := List.of_mem_zip paired
  have notText := h.values v value
  have datatype : v.datatype ≠ .text := by
    cases v with
    | null => simp [Scalar.datatype]
    | int n => simp [Scalar.datatype]
    | text t => cases notText
  cases e with
  | column c w =>
      have integer := h.columns _ argument c w rfl
      change c.datatype = .text at type
      rw [integer] at type
      cases type
  | _ => exact datatype type

/-- Arguments without a text of which one is not null have the common type of integers. -/
theorem castToCommonType_eq (h : TextFreeArguments arguments values) {v : Scalar}
    (argument : v.isNull = false → ∃ w ∈ values, w.isNull = false) :
    castToCommonType v ((argumentTypes arguments values).map .ok) = v.castSigned := by
  unfold castToCommonType
  split
  · rename_i null
    obtain rfl := Scalar.isNull_iff.mp null
    rfl
  · rename_i notNull
    obtain ⟨w, mem, nonNull⟩ := argument (Bool.eq_false_iff.mpr notNull)
    have typed : ∀ e ∈ arguments, ∀ c w, e = .column c w → c.datatype ≠ .null := by
      intro e argument c w same null
      rw [h.columns e argument c w same] at null
      cases null
    have noText := h.text_not_mem_types
    obtain ⟨t, memType, nonNullType⟩ := exists_argumentType_ne_null h.lengths typed mem nonNull
    have integer : .integer ∈ argumentTypes arguments values := by
      cases t with
      | null => exact absurd rfl nonNullType
      | integer => exact memType
      | text => exact absurd memType noText
    rw [commonType_eq, if_neg noText, if_pos integer]
    rfl

/-- An argument keeps its value where it takes the common type. -/
theorem castToCommonType_mem (h : TextFreeArguments arguments values) {v : Scalar}
    (mem : v ∈ values) :
    castToCommonType v ((argumentTypes arguments values).map .ok) = .ok v := by
  rw [h.castToCommonType_eq fun notNull => ⟨v, mem, notNull⟩]
  exact Scalar.castSigned_of_notText (h.values v mem)

end TextFreeArguments

namespace FunctionRule

/-- The least integer has no magnitude in either dialect, for reasons of their own. -/
theorem abs_agree {v : Scalar} (notText : v.isText = false) (types types' : List TypeResult) :
    Agree (·.isText = false) (mysqlAbs [v] types) (sqliteAbs [v] types') := by
  rcases Scalar.null_or_int notText with rfl | ⟨n, rfl⟩
  · exact .value rfl
  · change Agree _ (if n.val = minBigint then .error (.discard (.absOutOfRange n.val))
        else Scalar.ofInt n.val.natAbs)
      (if n.val = minBigint then .error (.discard (.absOverflow n.val))
        else Scalar.ofInt n.val.natAbs)
    split
    · exact .discarded _ _
    · rename_i notLeast
      obtain ⟨m, magnitude⟩ := Scalar.ofInt_natAbs notLeast
      rw [magnitude]
      exact .value rfl

theorem coalesce_notText {values : List Scalar} (each : ∀ v ∈ values, v.isText = false) :
    (PivotOracle.coalesce values).isText = false := by
  rcases coalesce_mem_or_null values with ⟨mem, -⟩ | null
  · exact each _ mem
  · rw [null]
    rfl

theorem coalesce_agree {arguments : List Expr} {values : List Scalar}
    (h : TextFreeArguments arguments values) (types' : List TypeResult) :
    Agree (·.isText = false)
      (mysqlCoalesce values ((argumentTypes arguments values).map .ok))
      (sqliteCoalesce values types') := by
  have notText := coalesce_notText h.values
  have cast : mysqlCoalesce values ((argumentTypes arguments values).map .ok) =
      .ok (PivotOracle.coalesce values) := by
    rw [mysqlCoalesce, h.castToCommonType_eq, Scalar.castSigned_castText notText]
    intro notNull
    rw [Scalar.isNull_castText] at notNull
    rcases coalesce_mem_or_null values with ⟨mem, nonNull⟩ | null
    · exact ⟨_, mem, nonNull⟩
    · rw [null] at notNull
      cases notNull
  rw [cast]
  exact .value notText

theorem ifNull_agree {a b : Expr} {v w : Scalar} (h : TextFreeArguments [a, b] [v, w])
    (types' : List TypeResult) :
    Agree (·.isText = false)
      (mysqlIfNull [v, w] ((argumentTypes [a, b] [v, w]).map .ok))
      (sqliteCoalesce [v, w] types') := by
  have second := h.castToCommonType_mem (v := w) (by simp)
  have first := h.castToCommonType_mem (v := v) (by simp)
  have choice : mysqlIfNull [v, w] ((argumentTypes [a, b] [v, w]).map .ok) =
      .ok (PivotOracle.coalesce [v, w]) := by
    change (if v.isNull then castToCommonType w _ else castToCommonType v _) = _
    rw [first, second]
    cases v with
    | null => cases w <;> rfl
    | int n => rfl
    | text t => rfl
  rw [choice]
  exact .value (coalesce_notText h.values)

theorem choice_agree {a b c : Expr} {condition l r : Scalar}
    (h : TextFreeArguments [a, b, c] [condition, l, r]) (types' : List TypeResult) :
    Agree (·.isText = false)
      (mysqlIf [condition, l, r] ((argumentTypes [a, b, c] [condition, l, r]).map .ok))
      (sqliteIif [condition, l, r] types') := by
  have branches : TextFreeArguments [b, c] [l, r] :=
    ⟨rfl, fun e mem => h.columns e (List.mem_cons_of_mem _ mem),
      fun v mem => h.values v (List.mem_cons_of_mem _ mem)⟩
  have left := branches.castToCommonType_mem (v := l) (by simp)
  have right := branches.castToCommonType_mem (v := r) (by simp)
  have test := truthOf_agree (h.values condition (by simp))
  -- MySQL casts the branch that it takes to the common type of both; without texts nothing comes of that.
  change Agree _
    ((truthOf .mysql condition >>= fun b => pure (if b = some true then l else r)) >>= fun v =>
      castToCommonType v ((argumentTypes [b, c] [l, r]).map .ok))
    (truthOf .sqlite condition >>= fun b => pure (if b = some true then l else r))
  rw [bind_assoc]
  refine test.bind fun truth _ => ?_
  rw [pure_bind]
  split
  · rw [left]
    exact .value (h.values l (by simp))
  · rw [right]
    exact .value (h.values r (by simp))

end FunctionRule

/-- The shared functions take the same numbers of arguments. -/
theorem FunctionName.Shared.definitions {f g : FunctionName} (shared : f.Shared g) :
    ∃ definition definition', definitionOf .mysql f = .ok definition ∧
      definitionOf .sqlite g = .ok definition' ∧ definition.arity = definition'.arity ∧
      definition.variadic = definition'.variadic := by
  cases shared <;> exact ⟨_, _, rfl, rfl, rfl, rfl⟩

/-- Shared functions agree on values that are no texts. -/
theorem evaluateCall_agree {f g : FunctionName} (shared : f.Shared g)
    {definition definition' : FunctionDefinition}
    (registered : definitionOf .mysql f = .ok definition)
    (registered' : definitionOf .sqlite g = .ok definition') {arguments : List Expr}
    (counted : definition.checkCount arguments.length = .ok ()) {values : List Scalar}
    (h : TextFreeArguments arguments values) (arguments' : List Expr) :
    Agree (·.isText = false) (evaluateCall definition arguments values)
      (evaluateCall definition' arguments' values) := by
  have counts := FunctionDefinition.checkCount_eq_ok.mp counted
  rw [evaluateCall_eq, evaluateCall_eq]
  generalize (argumentTypes arguments' values).map Except.ok = types'
  cases shared with
  | abs =>
      cases registered
      cases registered'
      obtain ⟨v, rfl⟩ := List.length_eq_one_iff.mp (h.lengths.symm.trans (by simpa using counts))
      exact FunctionRule.abs_agree (h.values v (by simp))
        ((argumentTypes arguments [v]).map .ok) types'
  | coalesce =>
      cases registered
      cases registered'
      exact FunctionRule.coalesce_agree h types'
  | ifNull =>
      cases registered
      cases registered'
      obtain ⟨a, b, rfl⟩ := List.length_eq_two.mp (by simpa using counts)
      obtain ⟨v, w, rfl⟩ := List.length_eq_two.mp h.lengths.symm
      exact FunctionRule.ifNull_agree h types'
  | choice =>
      cases registered
      cases registered'
      obtain ⟨a, b, c, rfl⟩ := List.length_eq_three.mp (by simpa using counts)
      obtain ⟨u, v, w, rfl⟩ := List.length_eq_three.mp h.lengths.symm
      exact FunctionRule.choice_agree h types'

/-! ### Trees -/

namespace Expr

/-- A call by the name that `r` gives its function; any other expression as it is. -/
def renameCall (r : FunctionName → FunctionName) : Expr → Expr
  | .call f arguments => .call (r f) arguments
  | e => e

/-- The tree in which every function has the name that `r` gives it. -/
def renameFunctions (r : FunctionName → FunctionName) (e : Expr) : Expr := e.rebuild (renameCall r)

theorem renameFunctions_id (e : Expr) : e.renameFunctions id = e :=
  rebuild_eq_self (fun e => by cases e <;> rfl) e

theorem renameFunctions_existsRow (r : FunctionName → FunctionName) (negated : Bool)
    (query : Select Expr) :
    (existsRow negated query).renameFunctions r =
      existsRow negated (query.rebuild (renameCall r)) :=
  rebuild_existsRow negated query

theorem renameFunctions_subquery (r : FunctionName → FunctionName) (query : Select Expr)
    (expected : Expr) :
    (subquery query expected).renameFunctions r =
      subquery (query.rebuild (renameCall r)) (expected.renameFunctions r) :=
  rebuild_subquery query expected

theorem renameFunctions_isIn (r : FunctionName → FunctionName) (negated : Bool) (e : Expr)
    (candidates : List Expr) :
    (isIn negated e candidates).renameFunctions r =
      isIn negated (e.renameFunctions r) (candidates.map (·.renameFunctions r)) :=
  rebuild_isIn negated e candidates

theorem renameFunctions_call (r : FunctionName → FunctionName) (f : FunctionName)
    (arguments : List Expr) :
    (call f arguments).renameFunctions r = call (r f) (arguments.map (·.renameFunctions r)) :=
  rebuild_call f arguments

/-- A single expression brings no text into an evaluation: what it stores is null or an integer, a
column of integers at that; a cast is to an integer; and a function that it calls is one that SQLite
shares by the name that `r` gives it, called with a declared number of arguments. -/
def TextFree (r : FunctionName → FunctionName) : Expr → Prop
  | .constant v => v.isText = false
  | .column c v => c.datatype = .integer ∧ v.isText = false
  | .typeName _ => False
  | .cast _ target => target = .signed
  | .call f arguments => f.Shared (r f) ∧ (call f arguments).Proper .mysql
  | _ => True

variable {r : FunctionName → FunctionName}

theorem stored_agree {v : Scalar} (notText : v.isText = false) :
    Agree (·.isText = false) (do requireSafeStart v; return v)
      (do requireSafeStart v; return v) := by
  rcases Scalar.null_or_int notText with rfl | ⟨n, rfl⟩
  · exact .value rfl
  · exact .value rfl

theorem evaluateAll_agree {es : List Expr}
    (each : ∀ e ∈ es, Agree (·.isText = false) (e.evaluate .mysql)
      ((e.renameFunctions r).evaluate .sqlite)) :
    Agree (fun values => ∀ v ∈ values, v.isText = false) (evaluateAll .mysql es)
      (evaluateAll .sqlite (es.map (·.renameFunctions r))) := by
  induction es with
  | nil =>
      simp only [evaluateAll, List.map_nil]
      exact .value (List.forall_mem_nil _)
  | cons e es ih =>
      obtain ⟨head, tail⟩ := List.forall_mem_cons.mp each
      refine head.bind fun v hv => (ih tail).bind fun values h => ?_
      exact .value (a := v :: values) (List.forall_mem_cons.mpr ⟨hv, h⟩)

theorem evaluateArguments_agree {es : List Expr}
    (each : ∀ e ∈ es, Agree (·.isText = false) (e.evaluate .mysql)
      ((e.renameFunctions r).evaluate .sqlite)) :
    Agree (fun values => es.length = values.length ∧ ∀ v ∈ values, v.isText = false)
      (evaluateArguments .mysql es) (evaluateArguments .sqlite (es.map (·.renameFunctions r))) := by
  induction es with
  | nil =>
      simp only [evaluateArguments, List.map_nil]
      exact .value ⟨rfl, List.forall_mem_nil _⟩
  | cons e es ih =>
      obtain ⟨head, tail⟩ := List.forall_mem_cons.mp each
      refine head.bind fun v hv => ?_
      have safe : requireSafeStart v = .ok () := by
        rcases Scalar.null_or_int hv with rfl | ⟨n, rfl⟩ <;> rfl
      rw [safe]
      refine (ih tail).bind fun values h => ?_
      exact .value (a := v :: values) ⟨by simp [h.1], List.forall_mem_cons.mpr ⟨hv, h.2⟩⟩

theorem bothHold_agree {x x' y y' : Except Failure Bool} (first : Agree (fun _ => True) x x')
    (second : Agree (fun _ => True) y y') :
    Agree (fun _ => True) (bothHold x y) (bothHold x' y') := by
  refine first.bind fun b _ => ?_
  split
  · exact second
  · exact .value trivial

theorem isSurelyTrue_agree {x y : Except Failure Scalar} (h : Agree (·.isText = false) x y) :
    Agree (fun _ => True) (isSurelyTrue .mysql x) (isSurelyTrue .sqlite y) :=
  h.bind fun _ notText => (truthOf_agree notText).bind fun _ _ => .value trivial

theorem joinsKeepPivot_agree {f : Expr → Expr} {joins : List (JoinClause Expr)}
    (each : ∀ clause ∈ joins, Agree (·.isText = false) (clause.condition.evaluate .mysql)
      ((clause.condition.rebuild f).evaluate .sqlite)) :
    Agree (fun _ => True) (joinsKeepPivot .mysql joins)
      (joinsKeepPivot .sqlite
        (joins.map fun clause => { clause with condition := clause.condition.rebuild f })) := by
  induction joins with
  | nil => exact .value trivial
  | cons clause joins ih =>
      obtain ⟨head, tail⟩ := List.forall_mem_cons.mp each
      rw [List.map_cons, joinsKeepPivot_cons, joinsKeepPivot_cons]
      exact bothHold_agree (isSurelyTrue_agree head) (ih tail)

theorem filterKeepsPivot_agree {f : Expr → Expr} {filter : Option Expr}
    (each : ∀ e ∈ filter, Agree (·.isText = false) (e.evaluate .mysql)
      ((e.rebuild f).evaluate .sqlite)) :
    Agree (fun _ => True) (filterKeepsPivot .mysql filter)
      (filterKeepsPivot .sqlite (filter.map (·.rebuild f))) := by
  cases filter with
  | none => exact .value trivial
  | some condition => exact isSurelyTrue_agree (each condition rfl)

/-- A call of a function that takes so many arguments evaluates them and then the function. -/
theorem evaluate_call {d : Dialect} {f : FunctionName} {definition : FunctionDefinition}
    (registered : definitionOf d f = .ok definition) {arguments : List Expr}
    (counted : definition.checkCount arguments.length = .ok ()) :
    (call f arguments).evaluate d =
      (do evaluateCall definition arguments (← evaluateArguments d arguments)) := by
  rw [evaluate, registered]
  change (do definition.checkCount arguments.length; _) = _
  rw [counted]
  rfl

/-- Evaluations that no text comes up in agree between the dialects. -/
theorem evaluate_agree {e : Expr} (textFree : ∀ n : Expr, n.EvaluatedIn e → n.TextFree r) :
    Agree (·.isText = false) (e.evaluate .mysql) ((e.renameFunctions r).evaluate .sqlite) := by
  have below {e p : Expr} (textFree : ∀ n : Expr, n.EvaluatedIn e → n.TextFree r)
      (mem : p ∈ e.evaluatedParts) (n : Expr) (evaluated : n.EvaluatedIn p) : n.TextFree r :=
    textFree n (.part mem evaluated)
  -- What carries the induction is that no value is a text: on such values each rule of the dialects agrees.
  induction e with
  | constant v => exact stored_agree (textFree _ (.self _))
  | column c v => exact stored_agree (textFree _ (.self _)).2
  | typeName t => exact (textFree _ (.self _)).elim
  | unary op e ih =>
      exact (ih (below textFree (by simp [evaluatedParts, parts]))).bind fun _ operand =>
        op.apply_agree operand
  | postfixTest op e ih =>
      exact (ih (below textFree (by simp [evaluatedParts, parts]))).bind fun _ operand =>
        op.apply_agree operand
  | arithmetic op l r ihl ihr =>
      exact (ihl (below textFree (by simp [evaluatedParts, parts]))).bind fun _ left =>
        (ihr (below textFree (by simp [evaluatedParts, parts]))).bind fun _ right =>
          op.apply_agree left right
  | comparison op l r ihl ihr =>
      exact (ihl (below textFree (by simp [evaluatedParts, parts]))).bind fun _ left =>
        (ihr (below textFree (by simp [evaluatedParts, parts]))).bind fun _ right =>
          op.apply_agree _ _ _ _ left right
  | connective op l r ihl ihr =>
      exact (ihl (below textFree (by simp [evaluatedParts, parts]))).bind fun _ left =>
        (ihr (below textFree (by simp [evaluatedParts, parts]))).bind fun _ right =>
          op.apply_agree left right
  | collate e collation ih => exact ih (below textFree (by simp [evaluatedParts, parts]))
  | cast e target ih =>
      obtain rfl : target = .signed := textFree _ (.self _)
      exact (ih (below textFree (by simp [evaluatedParts, parts]))).bind fun _ operand =>
        castTo_signed_agree operand
  | between negated e low high ih ihLow ihHigh =>
      exact (ih (below textFree (by simp [evaluatedParts, parts]))).bind fun _ subject =>
        (ihLow (below textFree (by simp [evaluatedParts, parts]))).bind fun _ lower =>
          (ihHigh (below textFree (by simp [evaluatedParts, parts]))).bind fun _ upper =>
            between_agree negated subject lower upper
  | isIn negated e candidates ih ihs =>
      rw [renameFunctions_isIn]
      have each := evaluateAll_agree fun c mem =>
        ihs c mem (below textFree (by simp [evaluatedParts, parts, mem]))
      exact (ih (below textFree (by simp [evaluatedParts, parts]))).bind fun _ subject =>
        each.bind fun _ values => isIn_agree negated subject values
  | sortTerm term ih =>
      cases term
      exact ih (below textFree (by simp [evaluatedParts, parts]))
  | join clause ih =>
      cases clause
      exact ih (below textFree (by simp [evaluatedParts, parts]))
  | existsRow negated query ih =>
      rw [renameFunctions_existsRow, evaluate_existsRow, evaluate_existsRow]
      have each : ∀ p ∈ (existsRow negated query).evaluatedParts,
          Agree (·.isText = false) (p.evaluate .mysql) ((p.renameFunctions r).evaluate .sqlite) :=
        fun p mem => ih p (mem_parts_of_mem_evaluatedParts mem) (below textFree mem)
      have joins := joinsKeepPivot_agree fun clause mem =>
        each _ (List.mem_append_left _ (List.mem_map_of_mem mem))
      have filter := filterKeepsPivot_agree fun p mem =>
        each p (List.mem_append_right _ (Option.mem_toList.mpr mem))
      refine (bothHold_agree joins filter).bind fun kept _ => ?_
      split
      · exact .value (isText_ofBool _)
      · exact .discarded _ _
  | subquery query expected ihs ih =>
      rw [renameFunctions_subquery]
      exact ih (below textFree (by simp [evaluatedParts]))
  | call f arguments ih =>
      obtain ⟨shared, definition, registered, counted⟩ := textFree _ (.self _)
      obtain ⟨_, definition', same, registered', arity, variadic⟩ := shared.definitions
      rw [registered] at same
      cases same
      -- The two functions take the same numbers of arguments, and so the call of the other one is no fault either.
      have counted' : definition'.checkCount (arguments.map (·.renameFunctions r)).length =
          .ok () := by
        rw [FunctionDefinition.checkCount_eq_ok] at counted ⊢
        rwa [List.length_map, ← arity, ← variadic]
      rw [renameFunctions_call, evaluate_call registered counted,
        evaluate_call registered' counted']
      have each := evaluateArguments_agree fun a mem => ih a mem (below textFree mem)
      refine each.bind fun values h => ?_
      have columns : ∀ a ∈ arguments, ∀ c w, a = .column c w → c.datatype = .integer := by
        rintro a mem c w rfl
        exact (textFree _ (.part mem (.self _))).1
      exact evaluateCall_agree shared registered registered' counted ⟨h.1, columns, h.2⟩ _

end Expr

/-! ### Predictions -/

/-- Two predictions agree: they are of the same value, or both give the case up. -/
def Prediction.Agrees : Prediction → Prediction → Prop
  | .value v, .value w => v = w
  | .discarded _, .discarded _ => True
  | _, _ => False

/-- The name that a function of MySQL has in SQLite. -/
def FunctionName.inSqlite : FunctionName → FunctionName
  | .ifElse => .iif
  | f => f

namespace Expr

theorem predict_agree_of_evaluate {P : Scalar → Prop} {e e' : Expr}
    (agree : Agree P (e.evaluate .mysql) (e'.evaluate .sqlite)) :
    ∃ p q, e.predict .mysql = .ok p ∧ e'.predict .sqlite = .ok q ∧ p.Agrees q := by
  unfold predict
  generalize e.evaluate .mysql = x at agree ⊢
  generalize e'.evaluate .sqlite = y at agree ⊢
  cases agree with
  | value _ => exact ⟨_, _, rfl, rfl, rfl⟩
  | discarded reason reason' => exact ⟨_, _, rfl, rfl, trivial⟩

/-- What brings no text into an evaluation and is no choice between values is shared by its own
name. -/
theorem TextFree.of_no_choice {n : Expr} (textFree : n.TextFree FunctionName.inSqlite)
    (noChoice : ∀ arguments, n ≠ .call .ifElse arguments) : n.TextFree id := by
  cases n with
  | call f arguments =>
      obtain ⟨shared, proper⟩ := textFree
      refine ⟨?_, proper⟩
      cases f with
      | ifElse => exact absurd rfl (noChoice arguments)
      | _ => exact shared
  | _ => exact textFree

/-- The dialects agree where no text comes up: both predict the same value, or both give the case
up. For a tree in which MySQL chooses between values, this is said of the tree in which SQLite
chooses between them by the function of its own; any other tree is predicted alike as it stands. -/
theorem predict_agree {e : Expr}
    (textFree : ∀ n : Expr, n.EvaluatedIn e → n.TextFree FunctionName.inSqlite) :
    (∃ p q, e.predict .mysql = .ok p ∧
      (e.renameFunctions FunctionName.inSqlite).predict .sqlite = .ok q ∧ p.Agrees q) ∧
    ((∀ arguments, ¬ (call .ifElse arguments).EvaluatedIn e) →
      ∃ p q, e.predict .mysql = .ok p ∧ e.predict .sqlite = .ok q ∧ p.Agrees q) := by
  refine ⟨predict_agree_of_evaluate (evaluate_agree textFree), fun noChoice => ?_⟩
  have shared : ∀ n : Expr, n.EvaluatedIn e → n.TextFree id := by
    intro n evaluated
    refine (textFree n evaluated).of_no_choice ?_
    rintro arguments rfl
    exact noChoice arguments evaluated
  have agree := evaluate_agree shared
  rw [renameFunctions_id] at agree
  exact predict_agree_of_evaluate agree

/-- A choice between a column that is null and the magnitude of the least integer, by a comparison
of integers. -/
theorem predict_agree_choice :
    let c := Expr.column ⟨"c", "t", .integer⟩ .null
    let least := Expr.call .abs [.constant (.int ⟨minBigint, by decide⟩)]
    let test := Expr.comparison .lt (.constant (.int 0)) (.constant (.int 1))
    let e := Expr.call .ifElse [test, c, least]
    ∃ p q, e.predict .mysql = .ok p ∧
      (Expr.call .iif [test, c, least]).predict .sqlite = .ok q ∧ p.Agrees q := by
  intro c least test e
  have leaf {v : Scalar} (notText : v.isText = false) :
      ∀ n : Expr, n.EvaluatedIn (.constant v) → n.TextFree FunctionName.inSqlite :=
    forall_evaluatedIn_iff.mpr ⟨notText, nofun⟩
  have column : ∀ n : Expr, n.EvaluatedIn c → n.TextFree FunctionName.inSqlite :=
    forall_evaluatedIn_iff.mpr ⟨⟨rfl, rfl⟩, nofun⟩
  have magnitude : ∀ n : Expr, n.EvaluatedIn least → n.TextFree FunctionName.inSqlite :=
    forall_evaluatedIn_iff.mpr ⟨⟨.abs, _, rfl, rfl⟩, List.forall_mem_singleton.mpr (leaf rfl)⟩
  have comparison : ∀ n : Expr, n.EvaluatedIn test → n.TextFree FunctionName.inSqlite :=
    forall_evaluatedIn_iff.mpr ⟨trivial, List.forall_mem_cons.mpr
      ⟨leaf rfl, List.forall_mem_singleton.mpr (leaf rfl)⟩⟩
  have textFree : ∀ n : Expr, n.EvaluatedIn e → n.TextFree FunctionName.inSqlite :=
    forall_evaluatedIn_iff.mpr ⟨⟨.choice, _, rfl, rfl⟩, List.forall_mem_cons.mpr
      ⟨comparison, List.forall_mem_cons.mpr ⟨column, List.forall_mem_singleton.mpr magnitude⟩⟩⟩
  exact (predict_agree textFree).1

end Expr

end PivotOracle
