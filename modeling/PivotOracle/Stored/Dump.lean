import PivotOracle.Data.Json
import PivotOracle.Sql.Expr
import PivotOracle.Stored.Form

/-!
# Stored form

The plain data that stands for a tree: every field is there, every member of an enumeration by its own
word, every value in its tagged form. Loading it gives the tree back.

* `Expr.store`, `Select.store` — the stored forms of expressions and statements.
* `Expr.dump` — the document of the stored form of an expression.
-/

namespace PivotOracle

/-- A member of an enumeration by its word. -/
def Vocabulary.store {α : Type} (v : Vocabulary α) (a : α) : Data := .text (v.spelling a)

/-- A table that says of which form it is. -/
def storedForm (tag : Text) (fields : List (Text × Data)) : Data :=
  .table (("kind", .text tag) :: fields)

/-- The stored form of a value. -/
def Scalar.store : Scalar → Data
  | .null => storedForm "null" []
  | .int n => storedForm "int" [("value", .int n.val)]
  | .text t => storedForm "text" [("value", .text t)]

/-- The stored form of a column. -/
def Column.store (c : Column) : Data :=
  .table [("name", .text c.name), ("table", .text c.table),
    ("datatype", ValueType.vocabulary.store c.datatype)]

/-- The stored form of a table. -/
def SourceTable.store (t : SourceTable) : Data :=
  .table [("name", .text t.name), ("columns", .list (t.columns.map Column.store))]

/-- The stored form of a type that stands in an expression. -/
def CastTarget.storeForm (t : CastTarget) : Data :=
  storedForm Form.typeName.tag [("type", CastTarget.vocabulary.store t)]

/-- The stored form of a statement of which the parts are stored. -/
def storedSelect (columns : List Data) (tables : List SourceTable) (joins : List Data)
    (filter : Data) (orderBy : List Data) (limit : Option Int) : Data :=
  storedForm selectTag
    [("columns", .list columns), ("tables", .list (tables.map SourceTable.store)),
     ("joins", .list joins), ("where_clause", filter), ("order_by", .list orderBy),
     ("limit", match limit with
       | some n => .int n
       | none => .null)]

/-- The stored form of a join of which the condition is stored. -/
def storedJoin (table : SourceTable) (condition : Data) (kind : JoinKind) : Data :=
  storedForm Form.join.tag
    [("table", table.store), ("on_clause", condition),
     ("join_type", JoinKind.vocabulary.store kind)]

/-- The stored form of a sort term of which the expression is stored. -/
def storedSortTerm (e : Data) (order : SortOrder) : Data :=
  storedForm Form.sortTerm.tag
    [("expression", e), ("ordering", SortOrder.vocabulary.store order)]

/-- The stored form of two operands. -/
def storedOperands (form : Form) (op l r : Data) : Data :=
  storedForm form.tag [("operator", op), ("left", l), ("right", r)]

mutual

/-- The stored form of an expression. -/
def Expr.store : Expr → Data
  | .constant v => storedForm Form.constant.tag [("value", v.store)]
  | .column c v => storedForm Form.column.tag [("column", c.store), ("value", v.store)]
  | .unary op e =>
    storedForm Form.unary.tag
      [("operator", UnaryOperator.vocabulary.store op), ("expression", e.store)]
  | .postfixTest op e =>
    storedForm Form.postfixTest.tag
      [("operator", PostfixTest.vocabulary.store op), ("expression", e.store)]
  | .arithmetic op l r =>
    storedOperands .arithmetic (ArithmeticOperator.vocabulary.store op) l.store r.store
  | .comparison op l r =>
    storedOperands .comparison (ComparisonOperator.vocabulary.store op) l.store r.store
  | .connective op l r =>
    storedOperands .connective (Connective.vocabulary.store op) l.store r.store
  | .collate e collation =>
    storedForm Form.collate.tag [("expression", e.store), ("collation", .text collation)]
  | .typeName t => t.storeForm
  | .cast e target =>
    storedForm Form.cast.tag [("expression", e.store), ("type", target.storeForm)]
  | .between negated e low high =>
    storedForm Form.between.tag
      [("expression", e.store), ("low", low.store), ("high", high.store),
       ("negated", .bool negated)]
  | .isIn negated e candidates =>
    storedForm Form.isIn.tag
      [("expression", e.store), ("candidates", .list (Expr.storeAll candidates)),
       ("negated", .bool negated)]
  | .sortTerm ⟨e, order⟩ => storedSortTerm e.store order
  | .join ⟨table, condition, kind⟩ => storedJoin table condition.store kind
  | .existsRow negated ⟨columns, tables, joins, filter, orderBy, limit⟩ =>
    storedForm Form.existsRow.tag
      [("select", storedSelect (Expr.storeAll columns) tables (Expr.storeJoins joins)
          (Expr.storeFilter filter) (Expr.storeSort orderBy) limit),
       ("negated", .bool negated)]
  | .subquery ⟨columns, tables, joins, filter, orderBy, limit⟩ expected =>
    storedForm Form.subquery.tag
      [("select", storedSelect (Expr.storeAll columns) tables (Expr.storeJoins joins)
          (Expr.storeFilter filter) (Expr.storeSort orderBy) limit),
       ("expected_value", expected.store)]
  | .call f arguments =>
    storedForm Form.call.tag
      [("function", FunctionName.vocabulary.store f),
       ("arguments", .list (Expr.storeAll arguments))]

/-- The stored forms of expressions. -/
def Expr.storeAll : List Expr → List Data
  | [] => []
  | e :: rest => e.store :: Expr.storeAll rest

/-- The stored forms of joins. -/
def Expr.storeJoins : List (JoinClause Expr) → List Data
  | [] => []
  | ⟨table, condition, kind⟩ :: rest =>
    storedJoin table condition.store kind :: Expr.storeJoins rest

/-- The stored form of a condition on rows; null where there is none. -/
def Expr.storeFilter : Option Expr → Data
  | none => .null
  | some condition => condition.store

/-- The stored forms of sort terms. -/
def Expr.storeSort : List (SortTerm Expr) → List Data
  | [] => []
  | ⟨e, order⟩ :: rest => storedSortTerm e.store order :: Expr.storeSort rest

end

/-- The document of the stored form of an expression. An expression with a text that is no valid Unicode
has none. -/
def Expr.dump (e : Expr) : Option Text := Json.document? e.store

/-- The stored form of a statement. -/
def Select.store (s : Select Expr) : Data :=
  storedSelect (Expr.storeAll s.columns) s.tables (Expr.storeJoins s.joins)
    (Expr.storeFilter s.filter) (Expr.storeSort s.orderBy) s.limit

end PivotOracle
