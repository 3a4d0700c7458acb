import PivotOracle.Proofs.Tree
import PivotOracle.Stored.Dump
import PivotOracle.Stored.Load

/-!
# Trees are loaded from their stored form

The stored form of a tree has every field, every member of an enumeration by its own word and every value in
its tagged form. All this loads, and nothing but the tree comes of it.

* `Vocabulary.WellSpelled` — every member is found by its own word, which a document can hold.
* `loadExprWith_store` — an expression is loaded from its stored form where its parts are.
* `loadExpr_store` — so every expression is.
-/

namespace PivotOracle

/-! ### Words -/

/-- Every member of an enumeration is the one that its own word means, and the word is valid Unicode. -/
structure Vocabulary.WellSpelled {α : Type} (v : Vocabulary α) : Prop where
  apart : ∀ a, v.find? (v.spelling a) = some a
  unicode : ∀ a, (v.spelling a).isUnicode = true

theorem loadMember_store {α : Type} {v : Vocabulary α} (spelled : v.WellSpelled) (a : α) :
    loadMember v (v.store a) = .value a := by
  simp only [loadMember, Vocabulary.store, Vocabulary.read, spelled.apart a]
  rfl

theorem ValueType.wellSpelled : vocabulary.WellSpelled := by
  constructor <;> intro a <;> cases a <;> rfl

theorem CastTarget.wellSpelled : vocabulary.WellSpelled := by
  constructor <;> intro a <;> cases a <;> rfl

theorem UnaryOperator.wellSpelled : vocabulary.WellSpelled := by
  constructor <;> intro a <;> cases a <;> rfl

theorem PostfixTest.wellSpelled : vocabulary.WellSpelled := by
  constructor <;> intro a <;> cases a <;> rfl

theorem ArithmeticOperator.wellSpelled : vocabulary.WellSpelled := by
  constructor <;> intro a <;> cases a <;> rfl

theorem ComparisonOperator.wellSpelled : vocabulary.WellSpelled := by
  constructor <;> intro a <;> cases a <;> rfl

theorem Connective.wellSpelled : vocabulary.WellSpelled := by
  constructor <;> intro a <;> cases a <;> rfl

theorem JoinKind.wellSpelled : vocabulary.WellSpelled := by
  constructor <;> intro a <;> cases a <;> rfl

theorem SortOrder.wellSpelled : vocabulary.WellSpelled := by
  constructor <;> intro a <;> cases a <;> rfl

theorem FunctionName.wellSpelled : vocabulary.WellSpelled := by
  constructor <;> intro a <;> cases a <;> rfl

/-! ### Values, columns and tables -/

theorem loadScalar_store (v : Scalar) : loadScalar v.store = .value v := by
  cases v with
  | null => rfl
  | int n =>
      change (Loaded.value n.val).check (fun n => .ofExcept .value (convertInt n)) = .value (.int n)
      simp only [Loaded.check, convertInt, Bigint.ofInt?_val, Loaded.ofExcept]
  | text t => rfl

theorem loadValue_store (v : Scalar) : loadValue v.store = .value v := by
  rw [← loadScalar_store v]
  cases v <;> rfl

/-- Items that are loaded from their stored forms are loaded from the list of these. -/
theorem loadItems_map {α : Type} {load : Data → Loaded α} {store : α → Data} {items : List α}
    (each : ∀ a ∈ items, load (store a) = .value a) : loadItems load (items.map store) = .value items := by
  induction items with
  | nil => rfl
  | cons a items ih =>
      obtain ⟨first, others⟩ := List.forall_mem_cons.mp each
      rw [List.map_cons, loadItems, first, ih others]
      rfl

theorem loadColumn_store (c : Column) : loadColumn c.store = .value c := by
  change (Column.mk <$> loadText (.text c.name) <*> loadText (.text c.table)
    <*> loadMember ValueType.vocabulary (ValueType.vocabulary.store c.datatype)) = .value c
  rw [loadMember_store ValueType.wellSpelled]
  rfl

theorem loadTable_store (t : SourceTable) : loadTable t.store = .value t := by
  change (SourceTable.mk <$> loadText (.text t.name) <*> loadItems loadColumn (t.columns.map Column.store)) =
    .value t
  rw [loadItems_map fun c _ => loadColumn_store c]
  rfl

theorem loadCastTarget_storeForm (target : CastTarget) : loadCastTarget target.storeForm = .value target := by
  change ((fun _ a => a) <$> Loaded.value () <*>
    loadMember CastTarget.vocabulary (CastTarget.vocabulary.store target)) = .value target
  rw [loadMember_store CastTarget.wellSpelled]
  rfl

/-! ### Clauses and statements -/

namespace Expr

theorem storeAll_eq_map (es : List Expr) : storeAll es = es.map store := by
  induction es with
  | nil => rfl
  | cons e es ih => rw [storeAll, ih, List.map_cons]

/-- The stored form of a join. -/
def storeJoin (clause : JoinClause Expr) : Data := storedJoin clause.table clause.condition.store clause.kind

theorem storeJoins_eq_map (joins : List (JoinClause Expr)) : storeJoins joins = joins.map storeJoin := by
  induction joins with
  | nil => rfl
  | cons clause joins ih => rw [storeJoins, ih, List.map_cons, storeJoin]

/-- The stored form of a limit. -/
def storeLimit : Option Int → Data
  | some n => .int n
  | none => .null

/-- The stored form of a sort term. -/
def storeSortTerm (term : SortTerm Expr) : Data := storedSortTerm term.expression.store term.order

theorem storeSort_eq_map (terms : List (SortTerm Expr)) : storeSort terms = terms.map storeSortTerm := by
  induction terms with
  | nil => rfl
  | cons term terms ih => rw [storeSort, ih, List.map_cons, storeSortTerm]

end Expr

section Parts

variable {load : Data → Loaded Expr}

theorem loadJoin_store {clause : JoinClause Expr}
    (condition : load clause.condition.store = .value clause.condition) :
    loadForm Form.join.tag (loadJoin load) (Expr.storeJoin clause) = .value clause := by
  change ((fun _ a => a) <$> Loaded.value () <*> (JoinClause.mk <$> loadTable clause.table.store
    <*> load clause.condition.store
    <*> loadMember JoinKind.vocabulary (JoinKind.vocabulary.store clause.kind))) = .value clause
  rw [loadTable_store, condition, loadMember_store JoinKind.wellSpelled]
  rfl

theorem loadSortTerm_store {term : SortTerm Expr}
    (expression : load term.expression.store = .value term.expression) :
    loadForm Form.sortTerm.tag (loadSortTerm load) (Expr.storeSortTerm term) = .value term := by
  change ((fun _ a => a) <$> Loaded.value () <*> (SortTerm.mk <$> load term.expression.store
    <*> loadMember SortOrder.vocabulary (SortOrder.vocabulary.store term.order))) = .value term
  rw [expression, loadMember_store SortOrder.wellSpelled]
  rfl

theorem loadFilter_store {filter : Option Expr} (condition : ∀ e ∈ filter, load e.store = .value e) :
    loadNullable load (Expr.storeFilter filter) = .value filter := by
  cases filter with
  | none => rfl
  | some e =>
      have notNull : loadNullable load e.store = some <$> load e.store := by
        cases e <;> rfl
      rw [Expr.storeFilter, notNull, condition e rfl]
      rfl

/-- A statement is loaded from its stored form where its expressions are. -/
theorem loadSelectWith_store {query : Select Expr} (parts : ∀ p ∈ query.parts, load p.store = .value p) :
    loadSelectWith load query.store = .value query := by
  obtain ⟨columns, tables, joins, filter, orderBy, limit⟩ := query
  simp only [Select.parts, List.mem_append, List.mem_map, Option.mem_toList] at parts
  have columnsLoad : loadItems load (Expr.storeAll columns) = .value columns := by
    rw [Expr.storeAll_eq_map]
    exact loadItems_map fun e mem => parts e (.inl (.inl (.inl mem)))
  have tablesLoad : loadItems loadTable (tables.map SourceTable.store) = .value tables :=
    loadItems_map fun t _ => loadTable_store t
  have joinsLoad : loadItems (loadForm Form.join.tag (loadJoin load)) (Expr.storeJoins joins) = .value joins := by
    rw [Expr.storeJoins_eq_map]
    exact loadItems_map fun clause mem =>
      loadJoin_store (parts _ (.inl (.inl (.inr ⟨clause, mem, rfl⟩))))
  have filterLoad : loadNullable load (Expr.storeFilter filter) = .value filter :=
    loadFilter_store fun e mem => parts e (.inl (.inr mem))
  have sortLoad : loadItems (loadForm Form.sortTerm.tag (loadSortTerm load)) (Expr.storeSort orderBy) =
      .value orderBy := by
    rw [Expr.storeSort_eq_map]
    exact loadItems_map fun term mem => loadSortTerm_store (parts _ (.inr ⟨term, mem, rfl⟩))
  have limitLoad : loadNullable loadInteger (Expr.storeLimit limit) = .value limit := by
    cases limit <;> rfl
  change ((fun _ a => a) <$> Loaded.value () <*> (Select.mk <$> loadItems load (Expr.storeAll columns)
    <*> loadItems loadTable (tables.map SourceTable.store)
    <*> loadItems (loadForm Form.join.tag (loadJoin load)) (Expr.storeJoins joins)
    <*> loadNullable load (Expr.storeFilter filter)
    <*> loadItems (loadForm Form.sortTerm.tag (loadSortTerm load)) (Expr.storeSort orderBy)
    <*> loadNullable loadInteger (Expr.storeLimit limit))) = _
  rw [columnsLoad, tablesLoad, joinsLoad, filterLoad, sortLoad, limitLoad]
  rfl

/-! ### Expressions -/

theorem loadTagged_storedForm {α : Type} (load : Text → Table → Loaded α) (tag : Text)
    (fields : List (Text × Data)) :
    loadTagged load (storedForm tag fields) = load tag (("kind", .text tag) :: fields) := rfl

/-- A stored form is loaded by the fields of its own form. -/
theorem loadExprWith_storedForm (form : Form) (fields : List (Text × Data)) :
    loadExprWith load (storedForm form.tag fields) = loadExprForm load (("kind", .text form.tag) :: fields) form := by
  rw [loadExprWith, loadTagged_storedForm, Form.ofTag?_tag]

section Operators

variable {α : Type} {v : Vocabulary α} (spelled : v.WellSpelled)

include spelled

theorem loadOperand_store {e : Expr} (build : α → Expr → Expr) (op : α) (operand : load e.store = .value e) :
    build <$> loadMember v (v.store op) <*> load e.store = .value (build op e) := by
  rw [loadMember_store spelled, operand]
  rfl

theorem loadOperands_store {l r : Expr} (build : α → Expr → Expr → Expr) (op : α)
    (operands : ∀ e ∈ [l, r], load e.store = .value e) :
    build <$> loadMember v (v.store op) <*> load l.store <*> load r.store = .value (build op l r) := by
  obtain ⟨left, right⟩ : load l.store = .value l ∧ load r.store = .value r := by simpa using operands
  rw [loadMember_store spelled, left, right]
  rfl

end Operators

/-- An expression is loaded from its stored form where its parts are. -/
theorem loadExprWith_store {e : Expr} (parts : ∀ p ∈ e.parts, load p.store = .value p) :
    loadExprWith load e.store = .value e := by
  cases e with
  | constant v =>
      refine (loadExprWith_storedForm .constant _).trans ?_
      -- The names of the fields are looked up by evaluation; what is left is to load what stands under them.
      change (Expr.constant <$> loadValue v.store) = _
      rw [loadValue_store]
      rfl
  | column c v =>
      refine (loadExprWith_storedForm .column _).trans ?_
      change (Expr.column <$> loadColumn c.store <*> loadValue v.store) = _
      rw [loadColumn_store, loadValue_store]
      rfl
  | unary op e =>
      exact (loadExprWith_storedForm .unary _).trans
        (loadOperand_store UnaryOperator.wellSpelled .unary op (parts e List.mem_cons_self))
  | postfixTest op e =>
      exact (loadExprWith_storedForm .postfixTest _).trans
        (loadOperand_store PostfixTest.wellSpelled .postfixTest op (parts e List.mem_cons_self))
  | arithmetic op l r =>
      exact (loadExprWith_storedForm .arithmetic _).trans
        (loadOperands_store ArithmeticOperator.wellSpelled .arithmetic op parts)
  | comparison op l r =>
      exact (loadExprWith_storedForm .comparison _).trans
        (loadOperands_store ComparisonOperator.wellSpelled .comparison op parts)
  | connective op l r =>
      exact (loadExprWith_storedForm .connective _).trans
        (loadOperands_store Connective.wellSpelled .connective op parts)
  | collate e collation =>
      refine (loadExprWith_storedForm .collate _).trans ?_
      change (Expr.collate <$> load e.store <*> Loaded.value collation) = _
      rw [parts e List.mem_cons_self]
      rfl
  | typeName t =>
      refine (loadExprWith_storedForm .typeName _).trans ?_
      change (Expr.typeName <$> loadMember CastTarget.vocabulary (CastTarget.vocabulary.store t)) = _
      rw [loadMember_store CastTarget.wellSpelled]
      rfl
  | cast e target =>
      refine (loadExprWith_storedForm .cast _).trans ?_
      change (Expr.cast <$> load e.store <*> loadCastTarget target.storeForm) = _
      rw [parts e List.mem_cons_self, loadCastTarget_storeForm]
      rfl
  | between negated e low high =>
      obtain ⟨inner, lower, upper⟩ :
          load e.store = .value e ∧ load low.store = .value low ∧ load high.store = .value high := by
        simpa [Expr.parts] using parts
      refine (loadExprWith_storedForm .between _).trans ?_
      change ((fun e low high negated => Expr.between negated e low high) <$> load e.store <*> load low.store
        <*> load high.store <*> Loaded.value negated) = _
      rw [inner, lower, upper]
      rfl
  | isIn negated e candidates =>
      obtain ⟨inner, others⟩ := List.forall_mem_cons.mp parts
      refine (loadExprWith_storedForm .isIn _).trans ?_
      change ((fun e candidates negated => Expr.isIn negated e candidates) <$> load e.store
        <*> loadItems load (Expr.storeAll candidates) <*> Loaded.value negated) = _
      rw [inner, Expr.storeAll_eq_map, loadItems_map others]
      rfl
  | sortTerm term =>
      refine (loadExprWith_storedForm .sortTerm _).trans ?_
      change (Expr.sortTerm <$> (SortTerm.mk <$> load term.expression.store
        <*> loadMember SortOrder.vocabulary (SortOrder.vocabulary.store term.order))) = _
      rw [parts term.expression List.mem_cons_self, loadMember_store SortOrder.wellSpelled]
      rfl
  | join clause =>
      refine (loadExprWith_storedForm .join _).trans ?_
      change (Expr.join <$> (JoinClause.mk <$> loadTable clause.table.store <*> load clause.condition.store
        <*> loadMember JoinKind.vocabulary (JoinKind.vocabulary.store clause.kind))) = _
      rw [loadTable_store, parts clause.condition List.mem_cons_self, loadMember_store JoinKind.wellSpelled]
      rfl
  | existsRow negated query =>
      refine (loadExprWith_storedForm .existsRow _).trans ?_
      change ((fun query negated => Expr.existsRow negated query) <$> loadSelectWith load query.store
        <*> Loaded.value negated) = _
      rw [loadSelectWith_store parts]
      rfl
  | subquery query expected =>
      obtain ⟨value, others⟩ := List.forall_mem_cons.mp parts
      refine (loadExprWith_storedForm .subquery _).trans ?_
      change (Expr.subquery <$> loadSelectWith load query.store <*> load expected.store) = _
      rw [loadSelectWith_store others, value]
      rfl
  | call f arguments =>
      have others : loadItems load (arguments.map Expr.store) = .value arguments := loadItems_map parts
      refine (loadExprWith_storedForm .call _).trans ?_
      change (Expr.call <$> loadMember FunctionName.vocabulary (FunctionName.vocabulary.store f)
        <*> loadItems load (Expr.storeAll arguments)) = _
      rw [loadMember_store FunctionName.wellSpelled, Expr.storeAll_eq_map, others]
      rfl

end Parts

/-! ### Depths -/

namespace Data

theorem depth_lt_list {items : List Data} {d : Data} (mem : d ∈ items) : d.depth < (Data.list items).depth := by
  rw [depth, Nat.lt_succ_iff]
  induction items with
  | nil => cases mem
  | cons first items ih =>
      rw [itemsDepth]
      rcases List.mem_cons.mp mem with rfl | later
      · exact Nat.le_max_left _ _
      · exact Nat.le_trans (ih later) (Nat.le_max_right _ _)

theorem depth_lt_table (key : Text) {entries : List (Text × Data)} {d : Data} (mem : (key, d) ∈ entries) :
    d.depth < (Data.table entries).depth := by
  rw [depth, Nat.lt_succ_iff]
  induction entries with
  | nil => cases mem
  | cons first entries ih =>
      obtain ⟨firstKey, firstData⟩ := first
      rw [entriesDepth]
      rcases List.mem_cons.mp mem with same | later
      · cases same
        exact Nat.le_max_left _ _
      · exact Nat.le_trans (ih later) (Nat.le_max_right _ _)

end Data

namespace Expr

theorem depth_store_lt_list {p : Expr} {es : List Expr} (mem : p ∈ es) :
    p.store.depth < (Data.list (storeAll es)).depth := by
  rw [storeAll_eq_map]
  exact Data.depth_lt_list (List.mem_map_of_mem mem)

/-- An expression of a statement is stored less deep than the statement. -/
theorem depth_store_lt_select {query : Select Expr} {p : Expr} (mem : p ∈ query.parts) :
    p.store.depth < query.store.depth := by
  obtain ⟨columns, tables, joins, filter, orderBy, limit⟩ := query
  simp only [Select.parts, List.mem_append, List.mem_map, Option.mem_toList] at mem
  rcases mem with ((column | ⟨clause, joined, rfl⟩) | condition) | ⟨term, sorted, rfl⟩
  · exact Nat.lt_trans (depth_store_lt_list column) (Data.depth_lt_table "columns" (by simp))
  · have inner : clause.condition.store.depth < (storeJoin clause).depth :=
      Data.depth_lt_table "on_clause" (by simp)
    have listed : (storeJoin clause).depth < (Data.list (storeJoins joins)).depth := by
      rw [storeJoins_eq_map]
      exact Data.depth_lt_list (List.mem_map_of_mem joined)
    exact Nat.lt_trans (Nat.lt_trans inner listed) (Data.depth_lt_table "joins" (by simp))
  · cases condition
    exact Data.depth_lt_table "where_clause" (by simp [storeFilter])
  · have inner : term.expression.store.depth < (storeSortTerm term).depth :=
      Data.depth_lt_table "expression" (by simp)
    have listed : (storeSortTerm term).depth < (Data.list (storeSort orderBy)).depth := by
      rw [storeSort_eq_map]
      exact Data.depth_lt_list (List.mem_map_of_mem sorted)
    exact Nat.lt_trans (Nat.lt_trans inner listed) (Data.depth_lt_table "order_by" (by simp))

/-- A part is stored less deep than the whole. -/
theorem depth_store_lt {p e : Expr} (mem : p ∈ e.parts) : p.store.depth < e.store.depth := by
  have operands {form : Form} {op : Data} {l r : Expr} (mem : p ∈ [l, r]) :
      p.store.depth < (storedOperands form op l.store r.store).depth := by
    simp only [List.mem_cons, List.not_mem_nil, or_false] at mem
    rcases mem with rfl | rfl
    · exact Data.depth_lt_table "left" (by simp)
    · exact Data.depth_lt_table "right" (by simp)
  cases e with
  | constant v => cases mem
  | column c v => cases mem
  | typeName t => cases mem
  | unary op e =>
      cases List.mem_singleton.mp mem
      exact Data.depth_lt_table "expression" (by simp)
  | postfixTest op e =>
      cases List.mem_singleton.mp mem
      exact Data.depth_lt_table "expression" (by simp)
  | arithmetic op l r => exact operands mem
  | comparison op l r => exact operands mem
  | connective op l r => exact operands mem
  | collate e collation =>
      cases List.mem_singleton.mp mem
      exact Data.depth_lt_table "expression" (by simp)
  | cast e target =>
      cases List.mem_singleton.mp mem
      exact Data.depth_lt_table "expression" (by simp)
  | between negated e low high =>
      simp only [parts, List.mem_cons, List.not_mem_nil, or_false] at mem
      rcases mem with rfl | rfl | rfl
      · exact Data.depth_lt_table "expression" (by simp)
      · exact Data.depth_lt_table "low" (by simp)
      · exact Data.depth_lt_table "high" (by simp)
  | isIn negated e candidates =>
      rcases List.mem_cons.mp mem with rfl | candidate
      · exact Data.depth_lt_table "expression" (by simp)
      · exact Nat.lt_trans (depth_store_lt_list candidate) (Data.depth_lt_table "candidates" (by simp))
  | sortTerm term =>
      cases List.mem_singleton.mp mem
      exact Data.depth_lt_table "expression" (by simp)
  | join clause =>
      cases List.mem_singleton.mp mem
      exact Data.depth_lt_table "on_clause" (by simp)
  | existsRow negated query =>
      exact Nat.lt_trans (depth_store_lt_select mem) (Data.depth_lt_table "select" (by simp [Select.store]))
  | subquery query expected =>
      rcases List.mem_cons.mp mem with rfl | part
      · exact Data.depth_lt_table "expected_value" (by simp)
      · exact Nat.lt_trans (depth_store_lt_select part) (Data.depth_lt_table "select" (by simp [Select.store]))
  | call f arguments =>
      have argument : p ∈ arguments := mem
      exact Nat.lt_trans (depth_store_lt_list argument) (Data.depth_lt_table "arguments" (by simp))

end Expr

/-- An expression of data is loaded with any depth that is enough. -/
theorem loadExprWithin_store (e : Expr) : ∀ n, e.store.depth ≤ n → loadExprWithin n e.store = .value e := by
  induction e using Expr.induction_parts with
  | step e ih =>
      intro n enough
      cases n with
      | zero =>
          have positive : 0 < e.store.depth := by
            cases e <;> exact Nat.succ_pos _
          omega
      | succ n =>
          refine loadExprWith_store fun p mem => ih p mem n ?_
          have less := Expr.depth_store_lt mem
          omega

/-- Every expression is loaded from its stored form. -/
theorem loadExpr_store (e : Expr) : loadExpr e.store = .value e :=
  loadExprWithin_store e _ (Nat.le_refl _)

end PivotOracle
