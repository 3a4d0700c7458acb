import Mathlib.Data.Set.List
import PivotOracle.Proofs.Evaluation

/-!
# Common types

The common type of expressions is a matter of which types they have. Where they stand, and how often, has no say:
text wins over integer, integer over null, and null alone gives no type. So a value that is cast to the common type of
candidates is cast alike in every order of them.

* `commonType_congr`, `castToCommonType_congr` — the same types have the same common type.
* `Expr.exists_type_iff` — an expression has a type where it is a column, or where MySQL has a value for it.
* `Expr.commonType_map_type` — the common type of expressions by the types that are there.
* `Expr.commonType_perm` — it is the same in every order.
-/

namespace PivotOracle

section Types

variable {types types' : List ValueType}

/-- The same types have the same common type, in whatever order and however often they stand. -/
theorem commonType_congr (same : ∀ t, t ∈ types ↔ t ∈ types') :
    commonType (types.map .ok) = commonType (types'.map .ok) := by
  simp only [commonType_eq, same]

/-- A value is cast alike to the common type of the same types. Their number has a say in one message alone, that of
the fault of having no common type. -/
theorem castToCommonType_congr (same : ∀ t, t ∈ types ↔ t ∈ types') (count : types.length = types'.length)
    (v : Scalar) : castToCommonType v (types.map .ok) = castToCommonType v (types'.map .ok) := by
  simp only [castToCommonType, commonType_congr same, List.length_map, count]

end Types

namespace Expr

variable {e : Expr} {es es' : List Expr}

/-- An expression has a type where it is a column, or where MySQL has a value for it. -/
theorem exists_type_iff :
    (∃ t, e.type = .ok t) ↔ (∃ c v, e = .column c v) ∨ ∃ v, e.evaluate .mysql = .ok v := by
  constructor
  · rintro ⟨t, typed⟩
    cases e with
    | column c v => exact .inl ⟨c, v, rfl⟩
    | _ =>
        obtain ⟨v, value, -⟩ := bind_eq_ok.mp typed
        exact .inr ⟨v, value⟩
  · rintro (⟨c, v, rfl⟩ | ⟨v, value⟩)
    · exact ⟨c.datatype, rfl⟩
    · cases e with
      | column c w => exact ⟨c.datatype, rfl⟩
      | _ => exact ⟨v.datatype, bind_eq_ok.mpr ⟨v, value, rfl⟩⟩

/-- Expressions that all have a type have these types, in order. -/
theorem exists_types (typed : ∀ e ∈ es, ∃ t, e.type = .ok t) :
    ∃ types : List ValueType, es.map type = types.map .ok ∧ ∀ t, t ∈ types ↔ ∃ e ∈ es, e.type = .ok t := by
  have inRange : es.map type ∈ Set.range (List.map Except.ok) := by
    rw [Set.range_list_map]
    intro result mem
    obtain ⟨e, memExpr, rfl⟩ := List.mem_map.mp mem
    obtain ⟨t, hasType⟩ := typed e memExpr
    exact ⟨t, hasType.symm⟩
  obtain ⟨types, same⟩ := inRange
  refine ⟨types, same.symm, fun t => ?_⟩
  rw [← List.mem_map_of_injective fun _ _ => Except.ok.inj, same, List.mem_map]

/-- The common type of expressions that all have a type is text where one of them is of the type of texts, else
integer where one is of that of integers, and there is none elsewhere. -/
theorem commonType_map_type (typed : ∀ e ∈ es, ∃ t, e.type = .ok t) :
    commonType (es.map type) =
      .ok (if ∃ e ∈ es, e.type = .ok .text then some .text
        else if ∃ e ∈ es, e.type = .ok .integer then some .integer else none) := by
  obtain ⟨types, same, mem⟩ := exists_types typed
  simp only [same, commonType_eq, mem]

/-- Expressions that all have a type, as columns or by their values in MySQL, have one common type in every order:
text where one of them is of the type of texts, else integer where one is of that of integers, else none. A value that
is cast to the common type of candidates is cast alike in every order of them, and fails alike where it cannot be. -/
theorem commonType_perm (perm : es.Perm es')
    (evaluated : ∀ e ∈ es, (∃ c v, e = .column c v) ∨ ∃ v, e.evaluate .mysql = .ok v) :
    commonType (es'.map type) = commonType (es.map type) ∧
    commonType (es.map type) =
      .ok (if ∃ e ∈ es, e.type = .ok .text then some .text
        else if ∃ e ∈ es, e.type = .ok .integer then some .integer else none) ∧
    ∀ v, castToCommonType v (es'.map type) = castToCommonType v (es.map type) := by
  have typed : ∀ e ∈ es, ∃ t, e.type = .ok t := fun e mem => exists_type_iff.mpr (evaluated e mem)
  have typed' : ∀ e ∈ es', ∃ t, e.type = .ok t := fun e mem => typed e (perm.mem_iff.mpr mem)
  obtain ⟨types, found, mem⟩ := exists_types typed
  obtain ⟨types', found', mem'⟩ := exists_types typed'
  have same (t : ValueType) : t ∈ types' ↔ t ∈ types := by simp only [mem, mem', perm.mem_iff]
  have count : types'.length = types.length := by
    have lengths := (perm.map type).length_eq
    rw [found, found', List.length_map, List.length_map] at lengths
    exact lengths.symm
  refine ⟨?_, commonType_map_type typed, fun v => ?_⟩
  · rw [found, found']
    exact commonType_congr same
  · rw [found, found']
    exact castToCommonType_congr same count v

/-- A column of texts makes texts of integers wherever it stands, though its value is one that is not read. -/
theorem commonType_perm_column :
    let reference := column ⟨"c", "t", .text⟩ (.text "\nabc")
    let one := constant (.int 1)
    let nothing := constant .null
    [one, nothing, reference].Perm [reference, one, nothing] ∧
      (∀ e ∈ [one, nothing, reference], (∃ c v, e = .column c v) ∨ ∃ v, e.evaluate .mysql = .ok v) ∧
      commonType ([reference, one, nothing].map type) = .ok (some .text) ∧
      castToCommonType (.int 1) ([reference, one, nothing].map type) = .ok (.text "1") := by
  intro reference one nothing
  have perm : [one, nothing, reference].Perm [reference, one, nothing] :=
    (List.perm_append_comm : ([one, nothing] ++ [reference]).Perm ([reference] ++ [one, nothing]))
  have typed : ∀ e ∈ [one, nothing, reference], (∃ c v, e = .column c v) ∨ ∃ v, e.evaluate .mysql = .ok v := by
    refine List.forall_mem_cons.mpr ⟨.inr ⟨_, rfl⟩, List.forall_mem_cons.mpr ⟨.inr ⟨_, rfl⟩, ?_⟩⟩
    exact List.forall_mem_singleton.mpr (.inl ⟨_, _, rfl⟩)
  obtain ⟨common, -, cast⟩ := commonType_perm perm typed
  exact ⟨perm, typed, common.trans rfl, (cast _).trans rfl⟩

end Expr

end PivotOracle
