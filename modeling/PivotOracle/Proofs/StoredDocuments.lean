import PivotOracle.Proofs.LoadedTrees

/-!
# Documents of stored trees

The stored form of a tree is written as a document and read back. Loading gives the tree again, unless the document
goes beyond the limits of the reader. There is no document if the tree has a text that is no valid Unicode.

* `Expr.writable_store` — the stored form of an expression has a document of its own.
* `loadExprDocumentWithin_write` — which expressions are loaded from the document of their stored form.
* `loadExprDocument_dump` — how the documents that give an expression go with the document of its stored form.
-/

namespace PivotOracle

namespace Data

/-- Fields with valid keys of their own. -/
def HasKeys (fields : List (Text × Data)) : Prop :=
  (fields.map Prod.fst).Nodup ∧ ∀ key ∈ fields.map Prod.fst, key.isUnicode = true

instance (fields : List (Text × Data)) : Decidable (HasKeys fields) := inferInstanceAs (Decidable (_ ∧ _))

/-- Fields with keys of their own, none of which is that of the form. -/
theorem writable_storedForm {tag : Text} {fields : List (Text × Data)}
    (keys : decide (HasKeys (("kind", .text tag) :: fields)) = true)
    (held : ∀ field ∈ fields, field.2.Writable) : (storedForm tag fields).Writable :=
  have ⟨distinct, unicode⟩ := of_decide_eq_true keys
  .table distinct unicode (List.forall_mem_cons.mpr ⟨.text tag, held⟩)

@[simp] theorem writable_store {α : Type} (v : Vocabulary α) (a : α) : (v.store a).Writable := .text _

end Data

attribute [simp] Data.Writable.null Data.Writable.bool Data.Writable.int Data.Writable.text

/-! ### Keys -/

@[simp] theorem Scalar.writable_store (v : Scalar) : v.store.Writable := by
  cases v with
  | null => exact Data.writable_storedForm rfl nofun
  | int n => exact Data.writable_storedForm rfl (by simp)
  | text t => exact Data.writable_storedForm rfl (by simp)

@[simp] theorem Column.writable_store (c : Column) : c.store.Writable :=
  .table (by decide : (["name", "table", "datatype"] : List Text).Nodup) (by simp) (by simp)

@[simp] theorem SourceTable.writable_store (t : SourceTable) : t.store.Writable := by
  have columns : (Data.list (t.columns.map Column.store)).Writable :=
    .list (List.forall_mem_map.mpr fun c _ => c.writable_store)
  exact .table (by decide : (["name", "columns"] : List Text).Nodup) (by simp) (by simpa using columns)

@[simp] theorem CastTarget.writable_storeForm (target : CastTarget) : target.storeForm.Writable :=
  Data.writable_storedForm rfl (by simp)

namespace Expr

theorem writable_storeAll {es : List Expr} (each : ∀ e ∈ es, e.store.Writable) :
    (Data.list (storeAll es)).Writable := by
  rw [storeAll_eq_map]
  exact .list (List.forall_mem_map.mpr each)

theorem writable_storeJoin {clause : JoinClause Expr} (condition : clause.condition.store.Writable) :
    (storeJoin clause).Writable :=
  Data.writable_storedForm rfl (by simpa using condition)

theorem writable_storeSortTerm {term : SortTerm Expr} (expression : term.expression.store.Writable) :
    (storeSortTerm term).Writable :=
  Data.writable_storedForm rfl (by simpa using expression)

theorem writable_storedOperands {form : Form} {op : Data} {l r : Expr} (operator : op.Writable)
    (operands : ∀ e ∈ [l, r], e.store.Writable) : (storedOperands form op l.store r.store).Writable := by
  obtain ⟨left, right⟩ : l.store.Writable ∧ r.store.Writable := by simpa using operands
  exact Data.writable_storedForm rfl (by simpa using ⟨operator, left, right⟩)

theorem writable_storeSelect {query : Select Expr} (parts : ∀ p ∈ query.parts, p.store.Writable) :
    query.store.Writable := by
  obtain ⟨columns, tables, joins, filter, orderBy, limit⟩ := query
  simp only [Select.parts, List.mem_append, List.mem_map, Option.mem_toList] at parts
  have columnsWritable : (Data.list (storeAll columns)).Writable :=
    writable_storeAll fun e mem => parts e (.inl (.inl (.inl mem)))
  have tablesWritable : (Data.list (tables.map SourceTable.store)).Writable :=
    .list (List.forall_mem_map.mpr fun t _ => t.writable_store)
  have joinsWritable : (Data.list (storeJoins joins)).Writable := by
    rw [storeJoins_eq_map]
    exact .list (List.forall_mem_map.mpr fun clause mem =>
      writable_storeJoin (parts _ (.inl (.inl (.inr ⟨clause, mem, rfl⟩)))))
  have filterWritable : (storeFilter filter).Writable := by
    cases filter with
    | none => exact .null
    | some e => exact parts e (.inl (.inr rfl))
  have sortWritable : (Data.list (storeSort orderBy)).Writable := by
    rw [storeSort_eq_map]
    exact .list (List.forall_mem_map.mpr fun term mem =>
      writable_storeSortTerm (parts _ (.inr ⟨term, mem, rfl⟩)))
  have limitWritable : (storeLimit limit).Writable := by
    cases limit with
    | none => exact .null
    | some n => exact .int n
  exact Data.writable_storedForm rfl (by simpa using
      ⟨columnsWritable, tablesWritable, joinsWritable, filterWritable, sortWritable, limitWritable⟩)

/-- The stored form of an expression has a document of its own. -/
theorem writable_store (e : Expr) : e.store.Writable := by
  induction e using Expr.induction_parts with
  | step e ih =>
      cases e with
      | constant v =>
          exact Data.writable_storedForm rfl (by simp)
      | column c v =>
          exact Data.writable_storedForm rfl (by simp)
      | unary op e =>
          exact Data.writable_storedForm rfl (by simpa using ih e List.mem_cons_self)
      | postfixTest op e =>
          exact Data.writable_storedForm rfl (by simpa using ih e List.mem_cons_self)
      | arithmetic op l r => exact writable_storedOperands (.text _) ih
      | comparison op l r => exact writable_storedOperands (.text _) ih
      | connective op l r => exact writable_storedOperands (.text _) ih
      | collate e collation =>
          exact Data.writable_storedForm rfl (by simpa using ih e List.mem_cons_self)
      | typeName t => exact t.writable_storeForm
      | cast e target =>
          exact Data.writable_storedForm rfl (by simpa using ih e List.mem_cons_self)
      | between negated e low high =>
          have operands : e.store.Writable ∧ low.store.Writable ∧ high.store.Writable := by
            simpa [parts] using ih
          exact Data.writable_storedForm rfl (by simpa using operands)
      | isIn negated e candidates =>
          obtain ⟨inner, others⟩ := List.forall_mem_cons.mp ih
          exact Data.writable_storedForm rfl (by simpa using ⟨inner, writable_storeAll others⟩)
      | sortTerm term => exact writable_storeSortTerm (ih term.expression List.mem_cons_self)
      | join clause => exact writable_storeJoin (ih clause.condition List.mem_cons_self)
      | existsRow negated query =>
          exact Data.writable_storedForm rfl (by simpa [Select.store] using writable_storeSelect ih)
      | subquery query expected =>
          obtain ⟨value, others⟩ := List.forall_mem_cons.mp ih
          exact Data.writable_storedForm rfl (by simpa [Select.store] using ⟨writable_storeSelect others, value⟩)
      | call f arguments =>
          have others : ∀ e ∈ arguments, e.store.Writable := ih
          exact Data.writable_storedForm rfl (by simpa using writable_storeAll others)

end Expr

/-! ### Documents -/

section Limit

variable {limit : Nat} {document : Text} {d : Data} {e : Expr}

/-- A document gives what its data does. -/
theorem loadExprDocumentWithin_of_read (read : Json.read limit document = some d) :
    loadExprDocumentWithin limit document = loadExpr d := by
  rw [loadExprDocumentWithin, read]

theorem read_of_loadExprDocumentWithin (loaded : loadExprDocumentWithin limit document = .value e) :
    ∃ d, Json.read limit document = some d ∧ loadExpr d = .value e := by
  unfold loadExprDocumentWithin at loaded
  split at loaded
  · exact ⟨_, ‹_›, loaded⟩
  · cases loaded

/-- The document of a stored form that is deeper than the reader allows is no document for it. -/
theorem loadExprDocumentWithin_write_of_deep {n : Nat} (fits : e.store.Fits n)
    (deep : ¬ e.store.Fits (limit + 1)) :
    loadExprDocumentWithin limit (Json.write e.store) = .problem .invalidDocument := by
  rw [loadExprDocumentWithin, Json.read_write_eq_none e.writable_store fits deep]

/-- An expression is loaded from the document of its stored form if and only if that is within the limits. -/
theorem loadExprDocumentWithin_write :
    loadExprDocumentWithin limit (Json.write e.store) = .value e ↔ e.store.Fits (limit + 1) := by
  constructor
  · intro loaded
    obtain ⟨d, read, loadedData⟩ := read_of_loadExprDocumentWithin loaded
    refine Classical.byContradiction fun deep => ?_
    have nearlyFits : e.store.Fits (limit + 1 + 1) := deepens_loadExpr loadedData (Json.read_fits read)
    rw [loadExprDocumentWithin_write_of_deep nearlyFits deep] at loaded
    cases loaded
  · intro fits
    rw [loadExprDocumentWithin_of_read (Json.read_write e.writable_store fits)]
    exact loadExpr_store e

/-- An expression has a document if and only if its texts are valid Unicode; the document is then its stored form as it
is written. -/
theorem Expr.dump_eq_some_iff : e.dump = some document ↔ e.store.isUnicode = true ∧ document = Json.write e.store := by
  rw [Expr.dump, Json.document?, Option.ite_none_right_eq_some, Option.some.injEq]
  exact and_congr_right' eq_comm

end Limit

/-! ### Documents of any depth -/

/-- An expression under so many minus signs. -/
def Expr.minuses : Nat → Expr
  | 0 => .constant .null
  | count + 1 => .unary .minus (minuses count)

/-- Data of an expression under so many minus signs, with a plain null for the value. -/
def minusData : Nat → Data
  | 0 => storedForm Form.constant.tag [("value", .null)]
  | count + 1 => storedForm Form.unary.tag [("operator", .text "-"), ("expression", minusData count)]

theorem lt_depth_minusData (count : Nat) : count < (minusData count).depth := by
  induction count with
  | zero => exact Nat.succ_pos _
  | succ count ih =>
      have less : (minusData count).depth < (minusData (count + 1)).depth :=
        Data.depth_lt_table "expression" (by simp)
      omega

theorem loadExprWithin_minusData {count : Nat} : ∀ {depth}, count < depth →
    loadExprWithin depth (minusData count) = .value (.minuses count) := by
  induction count with
  | zero =>
      intro depth enough
      cases depth with
      | zero => cases enough
      | succ depth => rfl
  | succ count ih =>
      intro depth enough
      cases depth with
      | zero => cases enough
      | succ depth =>
          change (Expr.unary <$> Loaded.value .minus <*> loadExprWithin depth (minusData count)) = _
          rw [ih (Nat.lt_of_succ_lt_succ enough)]
          rfl

theorem writable_minusData (count : Nat) : (minusData count).Writable := by
  induction count with
  | zero => exact Data.writable_storedForm rfl (by simp)
  | succ count ih => exact Data.writable_storedForm rfl (by simpa using ih)

theorem fits_minusData (count : Nat) : (minusData count).Fits (count + 2) := by
  induction count with
  | zero => exact Data.fits_storedForm rfl (by simp)
  | succ count ih => exact Data.fits_storedForm rfl (by simpa using ih)

theorem not_fits_store_minuses (count : Nat) : ¬ (Expr.minuses count).store.Fits (count + 2) := by
  induction count with
  | zero =>
      intro fits
      have value : Scalar.null.store.Fits 1 := Data.fits_table_iff.mp fits ("value", Scalar.null.store) (by simp)
      have kind : (Data.text "null").Fits 0 := Data.fits_table_iff.mp value ("kind", .text "null") (by simp)
      exact Nat.lt_irrefl 0 kind.pos
  | succ count ih =>
      intro fits
      exact ih (Data.fits_table_iff.mp fits ("expression", (Expr.minuses count).store) (by simp))

theorem read_write_minusData {count limit : Nat} (le : count < limit) :
    Json.read limit (Json.write (minusData count)) = some (minusData count) :=
  Json.read_write (writable_minusData count) ((fits_minusData count).mono (Nat.succ_le_succ le))

/-- The document under minus signs gives the expression as far as the reader allows. -/
theorem loadExprDocumentWithin_minusData {count limit : Nat} (le : count < limit) :
    loadExprDocumentWithin limit (Json.write (minusData count)) = .value (.minuses count) := by
  rw [loadExprDocumentWithin_of_read (read_write_minusData le)]
  exact loadExprWithin_minusData (lt_depth_minusData count)

/-- The stored form under minus signs is one level deeper than such data may be, and has no text but those of words. -/
theorem fits_store_minuses (count : Nat) : (Expr.minuses count).store.Fits (count + 3) :=
  deepens_loadExpr (loadExprWithin_minusData (lt_depth_minusData count)) (fits_minusData count)

theorem dump_minuses (count : Nat) : (Expr.minuses count).dump = some (Json.write (Expr.minuses count).store) :=
  Expr.dump_eq_some_iff.mpr ⟨(fits_store_minuses count).isUnicode (Expr.minuses count).writable_store, rfl⟩

/-! ### Documents and their normal form -/

/-- Documents and the dump, for a reader that allows any given nesting. Exactly the expressions of which the texts are
valid Unicode have a dump, and it gives the expression if and only if the stored form is within the limits. An
expression that was loaded has a dump, which is at most one level deeper than any document that gives it. -/
theorem loadExprDocument_dump (limit : Nat) (e : Expr) :
    ((∃ dumped, e.dump = some dumped) ↔ e.store.isUnicode = true) ∧
    (∀ dumped, e.dump = some dumped →
      (loadExprDocumentWithin limit dumped = .value e ↔ e.store.Fits (limit + 1))) ∧
    (∀ document : Text, Json.read limit document = some e.store →
      loadExprDocumentWithin limit document = .value e) ∧
    ∀ (document : Text) (d : Data), Json.read limit document = some d →
      loadExprDocumentWithin limit document = .value e →
      ∃ dumped, e.dump = some dumped ∧
        (∀ n, d.Fits n → e.store.Fits (n + 1)) ∧
        (d.Fits limit → loadExprDocumentWithin limit dumped = .value e) ∧
        (¬ e.store.Fits (limit + 1) → loadExprDocumentWithin limit dumped = .problem .invalidDocument) := by
  refine ⟨⟨?_, ?_⟩, ?_, ?_, ?_⟩
  · rintro ⟨dumped, dump⟩
    exact (Expr.dump_eq_some_iff.mp dump).1
  · exact fun unicode => ⟨_, Expr.dump_eq_some_iff.mpr ⟨unicode, rfl⟩⟩
  · intro dumped dump
    obtain ⟨_, rfl⟩ := Expr.dump_eq_some_iff.mp dump
    exact loadExprDocumentWithin_write
  · intro document read
    rw [loadExprDocumentWithin_of_read read]
    exact loadExpr_store e
  · intro document d read loaded
    rw [loadExprDocumentWithin_of_read read] at loaded
    have deepens (n : Nat) (fits : d.Fits n) : e.store.Fits (n + 1) := deepens_loadExpr loaded fits
    -- What was read has valid texts, and the stored form has none but these and its own words.
    have nearlyFits : e.store.Fits (limit + 2) := deepens _ (Json.read_fits read)
    have unicode : e.store.isUnicode = true := nearlyFits.isUnicode e.writable_store
    exact ⟨Json.write e.store, Expr.dump_eq_some_iff.mpr ⟨unicode, rfl⟩, deepens,
      fun fits => loadExprDocumentWithin_write.mpr (deepens limit fits),
      loadExprDocumentWithin_write_of_deep nearlyFits⟩

/-- A document that is one level less deep than the reader allows gives an expression that is loaded from its dump. -/
theorem loadExprDocument_dump_minuses :
    Json.read maxDocumentDepth (Json.write (minusData 198)) = some (minusData 198) ∧
      loadExprDocument (Json.write (minusData 198)) = .value (.minuses 198) ∧
      ∃ dumped, (Expr.minuses 198).dump = some dumped ∧ loadExprDocument dumped = .value (.minuses 198) := by
  have read : Json.read maxDocumentDepth (Json.write (minusData 198)) = some (minusData 198) :=
    read_write_minusData (by decide)
  have loaded : loadExprDocumentWithin maxDocumentDepth (Json.write (minusData 198)) = .value (.minuses 198) :=
    loadExprDocumentWithin_minusData (by decide)
  obtain ⟨dumped, dump, _, again, _⟩ :=
    (loadExprDocument_dump maxDocumentDepth (.minuses 198)).2.2.2 _ _ read loaded
  exact ⟨read, loaded, dumped, dump, again (fits_minusData 198)⟩

/-- At the depth that the reader allows the dump is too deep. -/
theorem loadExprDocument_dump_too_deep :
    loadExprDocument (Json.write (minusData 199)) = .value (.minuses 199) ∧
      ∃ dumped, (Expr.minuses 199).dump = some dumped ∧
        loadExprDocument dumped = .problem .invalidDocument :=
  ⟨loadExprDocumentWithin_minusData (by decide), _, dump_minuses 199,
    loadExprDocumentWithin_write_of_deep (fits_store_minuses 199) (not_fits_store_minuses 199)⟩

end PivotOracle
