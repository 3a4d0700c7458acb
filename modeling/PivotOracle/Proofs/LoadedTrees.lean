import PivotOracle.Proofs.DocumentLimits
import PivotOracle.Proofs.StoredTrees

/-!
# Trees that were loaded

Data may give a tree in many ways: with other words for the members of an enumeration, with plain values, without
the fields that have a default. The stored form of the tree spells all of this out. This makes it at most one level
deeper than the data was, no integer of it is longer than a document may hold, and no text of it has a stray byte that
the data did not have.

* `Deepens` — what is loaded from data has a stored form that is at most one level deeper.
* `deepens_loadExpr` — expressions have this property.
-/

namespace PivotOracle

namespace Loaded

variable {α β : Type}

theorem exists_of_seq {f : Loaded (α → β)} {x : Loaded α} {b : β} (loaded : f <*> x = .value b) :
    ∃ g, f = .value g ∧ ∃ a, x = .value a ∧ g a = b := by
  cases f with
  | problems found => cases x <;> cases loaded
  | value g =>
      cases x with
      | problems found => cases loaded
      | value a =>
          cases loaded
          exact ⟨g, rfl, a, rfl, rfl⟩

theorem exists_of_map {f : α → β} {x : Loaded α} {b : β} (loaded : f <$> x = .value b) :
    ∃ a, x = .value a ∧ f a = b := by
  obtain ⟨_, same, a, read, result⟩ := exists_of_seq (f := .value f) loaded
  cases same
  exact ⟨a, read, result⟩

end Loaded

/-! ### Data of one level -/

namespace Data

variable {n : Nat}

@[simp] theorem fits_null : Data.null.Fits (n + 1) := .leaf n.succ_pos trivial

@[simp] theorem fits_bool (b : Bool) : (Data.bool b).Fits (n + 1) := .leaf n.succ_pos trivial

@[simp] theorem fits_text_iff {t : Text} : (Data.text t).Fits (n + 1) ↔ t.isUnicode = true := by
  constructor
  · intro fits
    cases fits with
    | leaf pos leaf => exact leaf
  · exact fun unicode => .leaf n.succ_pos unicode

@[simp] theorem fits_nil : (Data.list []).Fits (n + 1) := .list n.succ_pos nofun

theorem fits_store {α : Type} {v : Vocabulary α} (spelled : v.WellSpelled) (a : α) : (v.store a).Fits (n + 1) :=
  fits_text_iff.mpr (spelled.unicode a)

/-- A field of a table fits one level less. -/
theorem Fits.get? {t : Table} {key : Text} {d : Data} (fits : (Data.table t).Fits (n + 1))
    (found : t.get? key = some d) : d.Fits n := by
  obtain ⟨_, _, whole, _⟩ := List.lookup_eq_some_iff.mp found
  have mem : (key, d) ∈ t := by
    rw [whole]
    exact List.mem_append_right _ List.mem_cons_self
  exact fits_table_iff.mp fits (key, d) mem

theorem fits_storedForm {tag : Text} {fields : List (Text × Data)} (tagged : tag.isUnicode = true)
    (held : ∀ field ∈ fields, field.2.Fits (n + 1)) : (storedForm tag fields).Fits (n + 2) :=
  fits_table_iff.mpr (List.forall_mem_cons.mpr ⟨fits_text_iff.mpr tagged, held⟩)

/-- Integers of 64 bits have no more digits than a document may have. -/
theorem isLeaf_int {i : Int} (range : minBigint ≤ i ∧ i ≤ maxBigint) : (Data.int i).IsLeaf := by
  have small : i.natAbs < 10 ^ 19 := by
    simp only [minBigint, maxBigint] at range
    omega
  have few : 10 ^ 19 ≤ 10 ^ Json.maxIntegerDigits := Nat.pow_le_pow_right (by decide) (by decide)
  exact (Nat.length_toDigits_le_iff (by decide) (by decide)).mpr (Nat.lt_of_lt_of_le small few)

end Data

/-! ### Values, columns and tables -/

theorem Form.isUnicode_tag (form : Form) : form.tag.isUnicode = true := by
  cases form <;> rfl

theorem Scalar.fits_null : Scalar.null.store.Fits 2 := Data.fits_storedForm rfl nofun

theorem Scalar.fits_int (n : Bigint) : (Scalar.int n).store.Fits 2 := by
  have leaf : (Data.int n.val).IsLeaf := Data.isLeaf_int n.inRange
  exact Data.fits_storedForm rfl (by simpa using .leaf Nat.one_pos leaf)

theorem Scalar.fits_text {t : Text} (unicode : t.isUnicode = true) : (Scalar.text t).store.Fits 2 :=
  Data.fits_storedForm rfl (by simpa using unicode)

theorem CastTarget.fits_storeForm (target : CastTarget) : target.storeForm.Fits 2 :=
  Data.fits_storedForm rfl (by simpa using Data.fits_store CastTarget.wellSpelled target)

/-! ### Levels -/

/-- What is loaded from data has a stored form that is at most one level deeper, without longer integers or texts that
are no valid Unicode. -/
def Deepens {α : Type} (load : Data → Loaded α) (store : α → Data) : Prop :=
  ∀ ⦃d : Data⦄ ⦃a : α⦄ ⦃n : Nat⦄, load d = .value a → d.Fits n → (store a).Fits (n + 1)

/-- What is loaded from the fields of a table has a stored form that is at most one level deeper than the table. -/
def DeepensFields {α : Type} (load : Table → Loaded α) (store : α → Data) : Prop :=
  ∀ ⦃t : Table⦄ ⦃a : α⦄ ⦃n : Nat⦄, load t = .value a → (Data.table t).Fits (n + 1) → (store a).Fits (n + 2)

section Fields

variable {α : Type} {load : Data → Loaded α} {store : α → Data} {n : Nat} {t : Table} {key : Text} {a : α}

theorem Deepens.of_shallow (shallow : ∀ a, (store a).Fits 2) : Deepens load store :=
  fun _ a _ _ fits => (shallow a).mono (Nat.succ_le_succ fits.pos)

/-- Data has at least one level. -/
theorem Deepens.of_succ
    (deepens : ∀ {d : Data} {a : α} {n : Nat}, load d = .value a → d.Fits (n + 1) → (store a).Fits (n + 2)) :
    Deepens load store := by
  intro d a n loaded fits
  cases n with
  | zero => exact absurd fits.pos (Nat.lt_irrefl 0)
  | succ n => exact deepens loaded fits

theorem Deepens.required (deepens : Deepens load store) (fits : (Data.table t).Fits (n + 1))
    (loaded : required t key load = .value a) : (store a).Fits (n + 1) := by
  unfold PivotOracle.required at loaded
  split at loaded
  · rename_i found
    exact deepens loaded (fits.get? found)
  · cases loaded

theorem Deepens.optional {default : α} (deepens : Deepens load store) (leaf : (store default).Fits (n + 1))
    (fits : (Data.table t).Fits (n + 1)) (loaded : optional t key default load = .value a) :
    (store a).Fits (n + 1) := by
  unfold PivotOracle.optional at loaded
  split at loaded
  · rename_i found
    exact deepens loaded (fits.get? found)
  · cases loaded
    exact leaf

/-- A table that has a field has room for it. -/
theorem pos_of_required (fits : (Data.table t).Fits (n + 1)) (loaded : required t key load = .value a) :
    0 < n := by
  unfold required at loaded
  split at loaded
  · rename_i found
    exact (fits.get? found).pos
  · cases loaded

theorem fits_of_loadItems {items : List Data} {all : List α} (deepens : Deepens load store)
    (loaded : loadItems load items = .value all) (fits : ∀ d ∈ items, d.Fits n) :
    ∀ d ∈ all.map store, d.Fits (n + 1) := by
  induction items generalizing all with
  | nil =>
      cases loaded
      exact nofun
  | cons d items ih =>
      obtain ⟨_, cons, others, loadedOthers, rfl⟩ := Loaded.exists_of_seq loaded
      obtain ⟨first, loadedFirst, rfl⟩ := Loaded.exists_of_map cons
      obtain ⟨firstFits, othersFit⟩ := List.forall_mem_cons.mp fits
      exact List.forall_mem_cons.mpr ⟨deepens loadedFirst firstFits, ih loadedOthers othersFit⟩

theorem Deepens.list (deepens : Deepens load store) :
    Deepens (loadList load) (fun all => .list (all.map store)) := by
  refine .of_succ fun {d all n} loaded fits => ?_
  cases d with
  | list items => exact Data.fits_list_iff.mpr (fits_of_loadItems deepens loaded (Data.fits_list_iff.mp fits))
  | _ => cases loaded

theorem Deepens.nullable (storeOption : Option α → Data) (deepens : Deepens load fun a => storeOption (some a))
    (null : storeOption none = .null) : Deepens (loadNullable load) storeOption := by
  intro d option n loaded fits
  unfold loadNullable at loaded
  split at loaded
  · cases loaded
    rw [null]
    exact Data.fits_null
  · obtain ⟨a, read, rfl⟩ := Loaded.exists_of_map loaded
    exact deepens read fits

end Fields

section Forms

variable {α : Type} {store : α → Data}

theorem DeepensFields.fields {load : Table → Loaded α} (deepens : DeepensFields load store) :
    Deepens (loadFields load) store := by
  refine .of_succ fun {d a n} loaded fits => ?_
  cases d with
  | table t => exact deepens loaded fits
  | _ => cases loaded

theorem DeepensFields.form {tag : Text} {load : Table → Loaded α} (deepens : DeepensFields load store) :
    Deepens (loadForm tag load) store := by
  refine DeepensFields.fields fun t _ n loaded fits => ?_
  obtain ⟨_, checked, a, read, rfl⟩ := Loaded.exists_of_seq loaded
  obtain ⟨_, _, rfl⟩ := Loaded.exists_of_map checked
  exact deepens read fits

theorem deepens_loadTagged {load : Text → Table → Loaded α} (deepens : ∀ word, DeepensFields (load word) store) :
    Deepens (loadTagged load) store := by
  refine .of_succ fun loaded fits => ?_
  unfold loadTagged at loaded
  split at loaded
  · split at loaded
    · cases loaded
    · exact deepens _ loaded fits
    · cases loaded
  · cases loaded

end Forms

/-! ### Texts, values, columns and tables -/

theorem deepens_loadText : Deepens loadText .text := by
  intro d t n loaded fits
  cases d with
  | text t =>
      cases loaded
      exact fits.mono n.le_succ
  | _ => cases loaded

theorem exists_int_of_convertInt {i : Int} {v : Scalar} (converted : convertInt i = .ok v) : ∃ n, v = .int n := by
  unfold convertInt at converted
  split at converted
  · cases converted
    exact ⟨_, rfl⟩
  · cases converted

theorem exists_int_of_loadBigint {d : Data} {v : Scalar} (loaded : loadBigint d = .value v) : ∃ n, v = .int n := by
  unfold loadBigint at loaded
  cases read : loadInteger d with
  | problems found =>
      rw [read] at loaded
      cases loaded
  | value i =>
      rw [read] at loaded
      cases converted : convertInt i with
      | error e =>
          simp only [Loaded.check, converted] at loaded
          cases loaded
      | ok w =>
          simp only [Loaded.check, converted] at loaded
          cases loaded
          exact exists_int_of_convertInt converted

/-- A value in its stored form keeps its text, and there is no text in the others. -/
theorem deepens_loadScalar : Deepens loadScalar Scalar.store := by
  refine deepens_loadTagged fun tag t v n loaded fits => ?_
  have room : 2 ≤ n + 2 := Nat.le_add_left 2 n
  split at loaded
  · cases loaded
    exact Scalar.fits_null.mono room
  · split at loaded
    · obtain ⟨i, rfl⟩ : ∃ i, v = .int i := by
        unfold required at loaded
        split at loaded
        · exact exists_int_of_loadBigint loaded
        · cases loaded
      exact (Scalar.fits_int i).mono room
    · split at loaded
      · obtain ⟨text, read, rfl⟩ := Loaded.exists_of_map loaded
        exact (Scalar.fits_text (Data.fits_text_iff.mp (deepens_loadText.required fits read))).mono room
      · cases loaded

/-- Plain data becomes a text only if it is that text. -/
theorem fits_of_convert {d : Data} {v : Scalar} (converted : d.convert = .ok v) (fits : d.Fits n) :
    v.store.Fits (n + 1) := by
  have room : 2 ≤ n + 1 := Nat.succ_le_succ fits.pos
  cases d with
  | null =>
      cases converted
      exact Scalar.fits_null.mono room
  | bool b =>
      cases converted
      exact (Scalar.fits_int _).mono room
  | int i =>
      obtain ⟨_, rfl⟩ := exists_int_of_convertInt converted
      exact (Scalar.fits_int _).mono room
  | double x =>
      cases x with
      | finite x =>
          simp only [Data.convert] at converted
          split at converted
          · obtain ⟨_, rfl⟩ := exists_int_of_convertInt converted
            exact (Scalar.fits_int _).mono room
          · cases converted
      | _ => cases converted
  | text t =>
      cases converted
      cases fits with
      | leaf pos leaf => exact (Scalar.fits_text leaf).mono room
  | list items => cases converted
  | table entries => cases converted

theorem deepens_loadValue : Deepens loadValue Scalar.store := by
  intro d v n loaded fits
  unfold loadValue at loaded
  split at loaded
  · exact deepens_loadScalar loaded fits
  · cases converted : d.convert with
    | ok w =>
        rw [converted] at loaded
        cases loaded
        exact fits_of_convert converted fits
    | error e =>
        rw [converted] at loaded
        cases loaded

theorem deepens_loadColumn : Deepens loadColumn Column.store := by
  refine DeepensFields.fields fun t c n loaded fits => ?_
  obtain ⟨_, untilTable, datatype, _, rfl⟩ := Loaded.exists_of_seq loaded
  obtain ⟨_, named, table, loadedTable, rfl⟩ := Loaded.exists_of_seq untilTable
  obtain ⟨name, loadedName, rfl⟩ := Loaded.exists_of_map named
  have nameFits := deepens_loadText.required fits loadedName
  have tableFits := deepens_loadText.required fits loadedTable
  have typeFits : (ValueType.vocabulary.store datatype).Fits (n + 1) :=
    Data.fits_store ValueType.wellSpelled datatype
  exact Data.fits_table_iff.mpr (by simpa using ⟨by simpa using nameFits, by simpa using tableFits, typeFits⟩)

theorem deepens_loadCastTarget : Deepens loadCastTarget CastTarget.storeForm :=
  .of_shallow CastTarget.fits_storeForm

theorem deepens_loadColumns : Deepens loadColumns fun columns => .list (columns.map Column.store) := by
  intro d columns n loaded fits
  cases d with
  | list items =>
      have same : loadColumns (.list items) = loadList loadColumn (.list items) := rfl
      exact deepens_loadColumn.list (same ▸ loaded) fits
  | _ => cases loaded

theorem deepens_loadTable : Deepens loadTable SourceTable.store := by
  refine DeepensFields.fields fun t _ n loaded fits => ?_
  obtain ⟨_, named, columns, loadedColumns, rfl⟩ := Loaded.exists_of_seq loaded
  obtain ⟨name, loadedName, rfl⟩ := Loaded.exists_of_map named
  have nameFits := deepens_loadText.required fits loadedName
  have columnsFit := deepens_loadColumns.optional Data.fits_nil fits loadedColumns
  exact Data.fits_table_iff.mpr (by simpa using ⟨by simpa using nameFits, columnsFit⟩)

/-! ### Limits of rows -/

/-- An integer of a plain numeral has no more digits than a document may have. -/
theorem isLeaf_of_plainInteger {t : Text} {i : Int} (loaded : plainInteger t = .value i) :
    (Data.int i).IsLeaf := by
  unfold plainInteger at loaded
  split at loaded
  · cases loaded
  · rename_i n rest _
    split at loaded
    · cases loaded
    · split at loaded
      · cases loaded
      · rename_i few
        split at loaded
        · cases loaded
          rw [Data.IsLeaf, IntegerNumeral.value, natAbs_signed]
          exact Json.digitCount_value_le (Nat.le_of_not_lt few) (by decide)
        · cases loaded

theorem isLeaf_of_lenientInteger {t : Text} {i : Int} (loaded : lenientInteger t = .value i) :
    (Data.int i).IsLeaf := by
  unfold lenientInteger at loaded
  split at loaded
  · rename_i plain
    cases loaded
    exact isLeaf_of_plainInteger plain
  · cases loaded
  · cases loaded
  · split at loaded
    · rename_i plain
      cases loaded
      exact isLeaf_of_plainInteger plain
    · cases loaded

theorem isLeaf_of_integerOfDouble {x : Double} {i : Int} (loaded : integerOfDouble x = .value i) :
    (Data.int i).IsLeaf := by
  unfold integerOfDouble at loaded
  split at loaded
  · split at loaded
    · cases loaded
    · split at loaded
      · rename_i range
        cases loaded
        exact Data.isLeaf_int ⟨Int.le_of_lt range.1, range.2⟩
      · cases loaded
  · cases loaded

theorem deepens_loadInteger : Deepens loadInteger .int := by
  intro d i n loaded fits
  have leaf : (Data.int i).IsLeaf := by
    cases d with
    | int n =>
        cases loaded
        cases fits with
        | leaf _ leaf => exact leaf
    | bool b =>
        cases loaded
        cases b <;> exact Data.isLeaf_int (by decide)
    | double x => exact isLeaf_of_integerOfDouble loaded
    | text t => exact isLeaf_of_lenientInteger loaded
    | _ => cases loaded
  exact .leaf n.succ_pos leaf

/-! ### Clauses and statements -/

section Parts

variable {load : Data → Loaded Expr}

theorem deepens_loadExprList (deepens : Deepens load Expr.store) :
    Deepens (loadList load) fun es => .list (Expr.storeAll es) := by
  intro d es n loaded fits
  simpa only [Expr.storeAll_eq_map] using deepens.list loaded fits

theorem deepensFields_loadSortTerm (deepens : Deepens load Expr.store) :
    DeepensFields (loadSortTerm load) Expr.storeSortTerm := by
  intro t term n loaded fits
  obtain ⟨_, expression, order, _, rfl⟩ := Loaded.exists_of_seq loaded
  obtain ⟨e, loadedExpression, rfl⟩ := Loaded.exists_of_map expression
  have inner := deepens.required fits loadedExpression
  have orderFits : (SortOrder.vocabulary.store order).Fits (n + 1) := Data.fits_store SortOrder.wellSpelled order
  exact Data.fits_storedForm rfl (by simpa using ⟨inner, orderFits⟩)

theorem deepensFields_loadJoin (deepens : Deepens load Expr.store) :
    DeepensFields (loadJoin load) Expr.storeJoin := by
  intro t clause n loaded fits
  obtain ⟨_, others, kind, _, rfl⟩ := Loaded.exists_of_seq loaded
  obtain ⟨_, joined, condition, loadedCondition, rfl⟩ := Loaded.exists_of_seq others
  obtain ⟨table, loadedTable, rfl⟩ := Loaded.exists_of_map joined
  have tableFits := deepens_loadTable.required fits loadedTable
  have conditionFits := deepens.required fits loadedCondition
  have kindFits : (JoinKind.vocabulary.store kind).Fits (n + 1) := Data.fits_store JoinKind.wellSpelled kind
  exact Data.fits_storedForm rfl (by simpa using ⟨tableFits, conditionFits, kindFits⟩)

theorem deepens_loadSelectWith (deepens : Deepens load Expr.store) :
    Deepens (loadSelectWith load) Select.store := by
  refine DeepensFields.form fun t query n loaded fits => ?_
  obtain ⟨_, untilSort, limit, loadedLimit, rfl⟩ := Loaded.exists_of_seq loaded
  obtain ⟨_, untilFilter, orderBy, loadedSort, rfl⟩ := Loaded.exists_of_seq untilSort
  obtain ⟨_, untilJoins, filter, loadedFilter, rfl⟩ := Loaded.exists_of_seq untilFilter
  obtain ⟨_, untilTables, joins, loadedJoins, rfl⟩ := Loaded.exists_of_seq untilJoins
  obtain ⟨_, untilColumns, tables, loadedTables, rfl⟩ := Loaded.exists_of_seq untilTables
  obtain ⟨columns, loadedColumns, rfl⟩ := Loaded.exists_of_map untilColumns
  have columnsFit := (deepens_loadExprList deepens).optional Data.fits_nil fits loadedColumns
  have tablesFit := deepens_loadTable.list.optional Data.fits_nil fits loadedTables
  have joinsFit := (deepensFields_loadJoin deepens).form.list.optional Data.fits_nil fits loadedJoins
  have filterFits := (Deepens.nullable Expr.storeFilter deepens rfl).optional Data.fits_null fits loadedFilter
  have sortFits := (deepensFields_loadSortTerm deepens).form.list.optional Data.fits_nil fits loadedSort
  have limitFits := (Deepens.nullable Expr.storeLimit deepens_loadInteger rfl).optional Data.fits_null fits
    loadedLimit
  rw [← Expr.storeJoins_eq_map] at joinsFit
  rw [← Expr.storeSort_eq_map] at sortFits
  exact Data.fits_storedForm rfl
    (by simpa using ⟨columnsFit, tablesFit, joinsFit, filterFits, sortFits, limitFits⟩)

/-! ### Expressions -/

section Operands

variable {α : Type} {v : Vocabulary α} {form : Form} {t : Table} {e : Expr} {n : Nat}

/-- The forms of an operator and its operand. -/
theorem fits_of_loadOperand (deepens : Deepens load Expr.store) (spelled : v.WellSpelled) {build : α → Expr → Expr}
    (stored : ∀ op e, (build op e).store =
      storedForm form.tag [("operator", v.store op), ("expression", e.store)])
    (loaded : build <$> required t "operator" (loadMember v) <*> required t "expression" load = .value e)
    (fits : (Data.table t).Fits (n + 1)) : e.store.Fits (n + 2) := by
  obtain ⟨_, first, operand, inner, rfl⟩ := Loaded.exists_of_seq loaded
  obtain ⟨op, _, rfl⟩ := Loaded.exists_of_map first
  rw [stored]
  exact Data.fits_storedForm form.isUnicode_tag
    (by simpa using ⟨Data.fits_store spelled op, deepens.required fits inner⟩)

/-- The forms of an operator and two operands. -/
theorem fits_of_loadOperands (deepens : Deepens load Expr.store) (spelled : v.WellSpelled)
    {build : α → Expr → Expr → Expr}
    (stored : ∀ op l r, (build op l r).store = storedOperands form (v.store op) l.store r.store)
    (loaded : build <$> required t "operator" (loadMember v) <*> required t "left" load
      <*> required t "right" load = .value e)
    (fits : (Data.table t).Fits (n + 1)) : e.store.Fits (n + 2) := by
  obtain ⟨_, untilLeft, r, right, rfl⟩ := Loaded.exists_of_seq loaded
  obtain ⟨_, first, l, left, rfl⟩ := Loaded.exists_of_seq untilLeft
  obtain ⟨op, _, rfl⟩ := Loaded.exists_of_map first
  rw [stored]
  exact Data.fits_storedForm form.isUnicode_tag
    (by simpa using ⟨Data.fits_store spelled op, deepens.required fits left, deepens.required fits right⟩)

end Operands

/-- The fields of every form have room for the stored form of what they hold. -/
theorem deepensFields_loadExprForm (deepens : Deepens load Expr.store) (form : Form) :
    DeepensFields (fun t => loadExprForm load t form) Expr.store := by
  intro t e n loaded fits
  -- Each form is loaded field by field. What comes of a field is at most one level deeper than the field, and the
  -- fields of the stored form are those that were loaded, with the defaults of those that were not given.
  cases form with
  | constant =>
      obtain ⟨v, value, rfl⟩ := Loaded.exists_of_map loaded
      exact Data.fits_storedForm rfl (by simpa using deepens_loadValue.required fits value)
  | column =>
      obtain ⟨_, named, v, value, rfl⟩ := Loaded.exists_of_seq loaded
      obtain ⟨c, column, rfl⟩ := Loaded.exists_of_map named
      have columnFits := deepens_loadColumn.required fits column
      -- Without a value the column is NULL, of which the stored form takes two levels: the column itself has them.
      have deep : 2 ≤ n + 1 := Nat.succ_le_succ (pos_of_required fits column)
      have valueFits := deepens_loadValue.optional (Scalar.fits_null.mono deep) fits value
      exact Data.fits_storedForm rfl (by simpa using ⟨columnFits, valueFits⟩)
  | unary => exact fits_of_loadOperand deepens UnaryOperator.wellSpelled (fun _ _ => rfl) loaded fits
  | postfixTest => exact fits_of_loadOperand deepens PostfixTest.wellSpelled (fun _ _ => rfl) loaded fits
  | arithmetic => exact fits_of_loadOperands deepens ArithmeticOperator.wellSpelled (fun _ _ _ => rfl) loaded fits
  | comparison => exact fits_of_loadOperands deepens ComparisonOperator.wellSpelled (fun _ _ _ => rfl) loaded fits
  | connective => exact fits_of_loadOperands deepens Connective.wellSpelled (fun _ _ _ => rfl) loaded fits
  | collate =>
      obtain ⟨_, first, collation, name, rfl⟩ := Loaded.exists_of_seq loaded
      obtain ⟨operand, inner, rfl⟩ := Loaded.exists_of_map first
      have nameFits := deepens_loadText.required fits name
      exact Data.fits_storedForm rfl (by simpa using ⟨deepens.required fits inner, by simpa using nameFits⟩)
  | typeName =>
      obtain ⟨target, _, rfl⟩ := Loaded.exists_of_map loaded
      exact target.fits_storeForm.mono (Nat.le_add_left 2 n)
  | cast =>
      obtain ⟨_, first, target, type, rfl⟩ := Loaded.exists_of_seq loaded
      obtain ⟨operand, inner, rfl⟩ := Loaded.exists_of_map first
      exact Data.fits_storedForm rfl
        (by simpa using ⟨deepens.required fits inner, deepens_loadCastTarget.required fits type⟩)
  | between =>
      obtain ⟨_, untilHigh, negated, _, rfl⟩ := Loaded.exists_of_seq loaded
      obtain ⟨_, untilLow, high, upper, rfl⟩ := Loaded.exists_of_seq untilHigh
      obtain ⟨_, first, low, lower, rfl⟩ := Loaded.exists_of_seq untilLow
      obtain ⟨operand, inner, rfl⟩ := Loaded.exists_of_map first
      exact Data.fits_storedForm rfl (by
        simpa using ⟨deepens.required fits inner, deepens.required fits lower, deepens.required fits upper⟩)
  | isIn =>
      obtain ⟨_, untilCandidates, negated, _, rfl⟩ := Loaded.exists_of_seq loaded
      obtain ⟨_, first, candidates, others, rfl⟩ := Loaded.exists_of_seq untilCandidates
      obtain ⟨operand, inner, rfl⟩ := Loaded.exists_of_map first
      exact Data.fits_storedForm rfl (by
        simpa using ⟨deepens.required fits inner, (deepens_loadExprList deepens).required fits others⟩)
  | sortTerm =>
      obtain ⟨term, sorted, rfl⟩ := Loaded.exists_of_map loaded
      exact deepensFields_loadSortTerm deepens sorted fits
  | join =>
      obtain ⟨clause, joined, rfl⟩ := Loaded.exists_of_map loaded
      exact deepensFields_loadJoin deepens joined fits
  | existsRow =>
      obtain ⟨_, first, negated, _, rfl⟩ := Loaded.exists_of_seq loaded
      obtain ⟨query, select, rfl⟩ := Loaded.exists_of_map first
      have queryFits := (deepens_loadSelectWith deepens).required fits select
      exact Data.fits_storedForm rfl (by simpa [Select.store] using queryFits)
  | subquery =>
      obtain ⟨_, first, expected, value, rfl⟩ := Loaded.exists_of_seq loaded
      obtain ⟨query, select, rfl⟩ := Loaded.exists_of_map first
      have queryFits := (deepens_loadSelectWith deepens).required fits select
      have expectedFits := deepens.required fits value
      exact Data.fits_storedForm rfl (by simpa [Select.store] using ⟨queryFits, expectedFits⟩)
  | call =>
      obtain ⟨_, first, arguments, others, rfl⟩ := Loaded.exists_of_seq loaded
      obtain ⟨f, _, rfl⟩ := Loaded.exists_of_map first
      have nameFits : (FunctionName.vocabulary.store f).Fits (n + 1) := Data.fits_store FunctionName.wellSpelled f
      exact Data.fits_storedForm rfl
        (by simpa using ⟨nameFits, (deepens_loadExprList deepens).required fits others⟩)

end Parts

theorem deepens_loadExprWithin (depth : Nat) : Deepens (loadExprWithin depth) Expr.store := by
  induction depth with
  | zero =>
      intro d e n loaded
      cases loaded
  | succ depth ih =>
      refine deepens_loadTagged fun word t e n loaded fits => ?_
      split at loaded
      · exact deepensFields_loadExprForm ih _ loaded fits
      · cases loaded

/-- An expression is stored at most one level deeper than it was loaded from, without longer integers or other
stray bytes. -/
theorem deepens_loadExpr : Deepens loadExpr Expr.store :=
  fun d _ _ loaded fits => deepens_loadExprWithin d.depth loaded fits

end PivotOracle
