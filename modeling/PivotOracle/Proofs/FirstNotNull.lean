import PivotOracle.Proofs.DialectAgreement
import PivotOracle.Proofs.UnaryPlus

/-!
# The first value that is not null

`COALESCE` and `IFNULL` both give their first argument that is not null. In MySQL they come to it by
different ways: `COALESCE` makes a text of it before it takes the common type of the arguments, `IFNULL` does
not. The way shows in no value. It shows in one message alone, that of the fault of having no common type,
which names the value.

* `Scalar.castToType_castText` — a value and its text are the same as a value of any type.
* `FunctionRule.mysqlIfNull_pair` — `IFNULL` takes the first value that is not null, too.
* `Expr.predict_coalesce_pair` — so two arguments have the same prediction in either function.
-/

namespace PivotOracle

namespace Scalar

@[simp] theorem castText_castText (v : Scalar) : v.castText.castText = v.castText := by
  cases v <;> rfl

/-- The text of an integer reads back as that integer, so that every value and its text are the same as an
integer. -/
theorem castSigned_castText_eq (v : Scalar) : v.castText.castSigned = v.castSigned := by
  by_cases text : v.isText = true
  · cases v with
    | text t => rfl
    | null => cases text
    | int n => cases text
  · have notText := Bool.eq_false_iff.mpr text
    rw [castSigned_castText notText, castSigned_of_notText notText]

/-- A value and its text are the same as a value of a type. -/
theorem castToType_castText (v : Scalar) (count : Nat) {type : ValueType} (typed : type ≠ .null) :
    v.castText.castToType count (some type) = v.castToType count (some type) := by
  cases type with
  | null => exact absurd rfl typed
  | integer => exact v.castSigned_castText_eq
  | text => exact congrArg Except.ok v.castText_castText

end Scalar

/-- A value and its text are the same as one of the common type of some types. Where all of these are null,
there is no common type, and a value that is not null is named by the fault as it stands. -/
theorem castToCommonType_castText (v : Scalar) (types : List ValueType) :
    castToCommonType v.castText (types.map .ok) = castToCommonType v (types.map .ok) ∨
      v.isNull = false ∧ (∀ t ∈ types, t = .null) ∧
        ∀ w : Scalar, w.isNull = false →
          castToCommonType w (types.map .ok) = .error (.fault (.noCommonType w types.length)) := by
  by_cases null : v.isNull = true
  · obtain rfl := Scalar.isNull_iff.mp null
    exact .inl rfl
  · have notNull := Bool.eq_false_iff.mpr null
    have textNotNull : v.castText.isNull = false := (Scalar.isNull_castText v).trans notNull
    -- With a type that is not null there is a common type, and a value and its text are cast to it alike.
    by_cases typed : ∃ t ∈ types, t ≠ .null
    · left
      obtain ⟨type, common, notNullType⟩ : ∃ type, commonType (types.map .ok) = .ok (some type) ∧
          type ≠ .null := by
        obtain ⟨t, mem, nonNull⟩ := typed
        rw [commonType_eq]
        by_cases text : ValueType.text ∈ types
        · exact ⟨.text, by rw [if_pos text], nofun⟩
        · have integer : ValueType.integer ∈ types := by
            cases t with
            | null => exact absurd rfl nonNull
            | integer => exact mem
            | text => exact absurd mem text
          exact ⟨.integer, by rw [if_neg text, if_pos integer], nofun⟩
      rw [castToCommonType_of_notNull notNull, castToCommonType_of_notNull textNotNull, common]
      exact v.castToType_castText _ notNullType
    · right
      push Not at typed
      refine ⟨notNull, typed, fun w notNull => ?_⟩
      have text : ValueType.text ∉ types := fun mem => nomatch typed _ mem
      have integer : ValueType.integer ∉ types := fun mem => nomatch typed _ mem
      rw [castToCommonType_of_notNull notNull, commonType_eq, if_neg text, if_neg integer,
        List.length_map]
      rfl

/-- Of two values, `IFNULL` takes the first that is not null. -/
theorem FunctionRule.mysqlIfNull_pair (v w : Scalar) (types : List TypeResult) :
    mysqlIfNull [v, w] types = castToCommonType (PivotOracle.coalesce [v, w]) types := by
  change (if v.isNull then castToCommonType w types else castToCommonType v types) = _
  cases v with
  | null => cases w <;> rfl
  | int n => rfl
  | text t => rfl

namespace Expr

/-- The arguments of a call of two are evaluated one after the other, or the evaluation of one of them
fails. -/
theorem evaluateArguments_pair {d : Dialect} {a b : Expr} {values : List Scalar}
    (evaluated : evaluateArguments d [a, b] = .ok values) :
    ∃ v w, values = [v, w] ∧ a.evaluate d = .ok v ∧ b.evaluate d = .ok w := by
  obtain ⟨v, first, afterFirst⟩ := bind_eq_ok.mp evaluated
  obtain ⟨_, _, afterFirst⟩ := bind_eq_ok.mp afterFirst
  obtain ⟨others, rest, same⟩ := bind_eq_ok.mp afterFirst
  obtain ⟨w, second, afterSecond⟩ := bind_eq_ok.mp rest
  obtain ⟨_, _, afterSecond⟩ := bind_eq_ok.mp afterSecond
  cases afterSecond
  cases same
  exact ⟨v, w, rfl, first, second⟩

/-- The functions of MySQL have the same value for two arguments, or fail alike, unless both arguments have
the type null and one of the values is not null. The fault then names the text of the first such value in one
function, and that value in the other. -/
theorem evaluate_coalesce_pair (a b : Expr) :
    (call .coalesce [a, b]).evaluate .mysql = (call .ifNull [a, b]).evaluate .mysql ∨
      ∃ v w, a.evaluate .mysql = .ok v ∧ b.evaluate .mysql = .ok w ∧
        a.argumentType v = .null ∧ b.argumentType w = .null ∧
        (PivotOracle.coalesce [v, w]).isNull = false ∧
        (call .coalesce [a, b]).evaluate .mysql =
          .error (.fault (.noCommonType (PivotOracle.coalesce [v, w]).castText 2)) ∧
        (call .ifNull [a, b]).evaluate .mysql =
          .error (.fault (.noCommonType (PivotOracle.coalesce [v, w]) 2)) := by
  rw [evaluate_call (f := .coalesce) rfl rfl, evaluate_call (f := .ifNull) rfl rfl]
  cases evaluated : evaluateArguments .mysql [a, b] with
  | error f => exact .inl rfl
  | ok values =>
      obtain ⟨v, w, rfl, first, second⟩ := evaluateArguments_pair evaluated
      let chosen := PivotOracle.coalesce [v, w]
      let types := [a.argumentType v, b.argumentType w]
      -- One function casts the chosen value to a text before it takes the common type, the other one does not.
      change castToCommonType chosen.castText (types.map .ok) =
          FunctionRule.mysqlIfNull [v, w] (types.map .ok) ∨ ∃ v' w', _ ∧ _ ∧ _ ∧ _ ∧ _ ∧
        castToCommonType chosen.castText (types.map .ok) = _ ∧
          FunctionRule.mysqlIfNull [v, w] (types.map .ok) = _
      rw [FunctionRule.mysqlIfNull_pair]
      rcases castToCommonType_castText chosen types with same | ⟨notNull, untyped, fault⟩
      · exact .inl same
      · have textNotNull : chosen.castText.isNull = false := (Scalar.isNull_castText _).trans notNull
        exact .inr ⟨v, w, first, second, untyped _ (by simp [types]), untyped _ (by simp [types]),
          notNull, fault _ textNotNull, fault _ notNull⟩

/-- Two arguments have the same prediction in `COALESCE` and `IFNULL`: the same value, or the same failure, in
every dialect. The one exception is among expressions that are not well formed: in MySQL, where the value of
one argument is not null and both arguments have the type null all the same, the fault of having no common
type names the text of that value in one function and the value in the other. -/
theorem predict_coalesce_pair (d : Dialect) (a b : Expr) :
    (call .coalesce [a, b]).predict d = (call .ifNull [a, b]).predict d ∨
      d = .mysql ∧ ∃ v w, a.evaluate .mysql = .ok v ∧ b.evaluate .mysql = .ok w ∧
        a.argumentType v = .null ∧ b.argumentType w = .null ∧
        (PivotOracle.coalesce [v, w]).isNull = false ∧
        (call .coalesce [a, b]).predict d =
          .error (.fault (.noCommonType (PivotOracle.coalesce [v, w]).castText 2)) ∧
        (call .ifNull [a, b]).predict d =
          .error (.fault (.noCommonType (PivotOracle.coalesce [v, w]) 2)) := by
  cases d with
  | sqlite =>
      left
      unfold predict
      rw [evaluate_call (f := .coalesce) rfl rfl, evaluate_call (f := .ifNull) rfl rfl]
      rfl
  | mysql =>
      rcases evaluate_coalesce_pair a b with same | ⟨v, w, first, second, typeA, typeB, notNull, faults⟩
      · left
        unfold predict
        rw [same]
      · have notDiscard (g : Fault) (reason : Discard) : Failure.fault g ≠ .discard reason := nofun
        exact .inr ⟨rfl, v, w, first, second, typeA, typeB, notNull,
          predict_eq_error_iff.mpr ⟨faults.1, notDiscard _⟩,
          predict_eq_error_iff.mpr ⟨faults.2, notDiscard _⟩⟩

end Expr

end PivotOracle
