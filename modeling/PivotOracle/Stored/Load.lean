import PivotOracle.Data.Json
import PivotOracle.Sql.Expr
import PivotOracle.Stored.Form
import PivotOracle.Stored.Lenient

/-!
# Loading

Stored trees are plain data, and loading gives the tree or all that is wrong with it. Fields that are
not known are passed over, fields that have a default may be missing, and what is wrong in one field
does not keep the others from being checked.

* `loadExpr`, `loadSelect`, `loadScalar`, `loadColumn`, `loadTable` — the trees of plain data.
* `loadExprDocumentWithin`, `loadExprDocument` — the expression of a JSON document.
-/

namespace PivotOracle

variable {α : Type}

/-! ### Fields -/

/-- A field that must be there. -/
def required (t : Table) (key : Text) (load : Data → Loaded α) : Loaded α :=
  match t.get? key with
  | some d => load d
  | none => .problem .missing

/-- A field that has a default. -/
def optional (t : Table) (key : Text) (default : α) (load : Data → Loaded α) : Loaded α :=
  match t.get? key with
  | some d => load d
  | none => .value default

/-- A text. -/
def loadText : Data → Loaded Text
  | .text t => .value t
  | _ => .problem .notText

/-- A member of an enumeration. -/
def loadMember (v : Vocabulary α) (d : Data) : Loaded α :=
  .ofExcept (fun _ => .notMember) (v.read d)

/-- The items of a list, each of which is loaded. -/
def loadItems (load : Data → Loaded α) : List Data → Loaded (List α)
  | [] => .value []
  | d :: rest => List.cons <$> load d <*> loadItems load rest

/-- A list of which the items are loaded. -/
def loadList (load : Data → Loaded α) : Data → Loaded (List α)
  | .list items => loadItems load items
  | _ => .problem .notList

/-- Data that may be null. -/
def loadNullable (load : Data → Loaded α) : Data → Loaded (Option α)
  | .null => .value none
  | d => some <$> load d

/-- The fields of data that is a table. -/
def loadFields (load : Table → Loaded α) : Data → Loaded α
  | .table t => load t
  | _ => .problem .notModel

/-- What a table says of its form, where only one is possible and nothing need be said. -/
def checkTag (t : Table) (tag : Text) : Loaded Unit :=
  match t.get? "kind" with
  | none => .value ()
  | some (.text k) => if k = tag then .value () else .problem .wrongKind
  | some _ => .problem .wrongKind

/-- The fields of data that is a table of one possible form. -/
def loadForm (tag : Text) (load : Table → Loaded α) : Data → Loaded α :=
  loadFields fun t => (fun _ a => a) <$> checkTag t tag <*> load t

/-- The fields of data that is a table and must say of which form it is. -/
def loadTagged (load : Text → Table → Loaded α) : Data → Loaded α
  | .table t =>
    match Table.get? t "kind" with
    | none => .problem .noKind
    | some (.text k) => load k t
    | some _ => .problem .unknownKind
  | _ => .problem .notTagged

/-! ### Values, columns and tables -/

/-- An integer that must be in range. -/
def loadBigint (d : Data) : Loaded Scalar :=
  (loadInteger d).check fun n => .ofExcept .value (convertInt n)

/-- A scalar in its stored form. -/
def loadScalar : Data → Loaded Scalar :=
  loadTagged fun tag t =>
    if tag = "null" then .value .null
    else if tag = "int" then required t "value" loadBigint
    else if tag = "text" then Scalar.text <$> required t "value" loadText
    else .problem .unknownKind

/-- A scalar in its stored form or as plain data. -/
def loadValue : Data → Loaded Scalar
  | .table t => loadScalar (.table t)
  | d => .ofExcept .value d.convert

/-- A column. -/
def loadColumn : Data → Loaded Column :=
  loadFields fun t =>
    Column.mk <$> required t "name" loadText <*> required t "table" loadText
      <*> required t "datatype" (loadMember ValueType.vocabulary)

/-- The columns of a table. -/
def loadColumns : Data → Loaded (List Column)
  | .list items => loadItems loadColumn items
  | _ => .problem .notColumns

/-- A table. -/
def loadTable : Data → Loaded SourceTable :=
  loadFields fun t =>
    SourceTable.mk <$> required t "name" loadText <*> optional t "columns" [] loadColumns

/-- The type of a cast, by its word or as an expression. -/
def loadCastTarget : Data → Loaded CastTarget
  | .text word => .ofExcept .castTarget (CastTarget.vocabulary.read (.text word))
  | d => loadForm Form.typeName.tag
      (fun t => required t "type" (loadMember CastTarget.vocabulary)) d

/-! ### Expressions and statements

Each is loaded by way of a function that loads the expressions in it. -/

variable (load : Data → Loaded Expr)

/-- A term of a sort. -/
def loadSortTerm (t : Table) : Loaded (SortTerm Expr) :=
  SortTerm.mk <$> required t "expression" load
    <*> optional t "ordering" .ascending (loadMember SortOrder.vocabulary)

/-- A joined table. -/
def loadJoin (t : Table) : Loaded (JoinClause Expr) :=
  JoinClause.mk <$> required t "table" loadTable <*> required t "on_clause" load
    <*> optional t "join_type" .inner (loadMember JoinKind.vocabulary)

/-- A statement. -/
def loadSelectWith : Data → Loaded (Select Expr) :=
  loadForm selectTag fun t =>
    Select.mk <$> optional t "columns" [] (loadList load)
      <*> optional t "tables" [] (loadList loadTable)
      <*> optional t "joins" [] (loadList (loadForm Form.join.tag (loadJoin load)))
      <*> optional t "where_clause" none (loadNullable load)
      <*> optional t "order_by" [] (loadList (loadForm Form.sortTerm.tag (loadSortTerm load)))
      <*> optional t "limit" none (loadNullable loadInteger)

/-- Whether an expression is negated. -/
def loadNegated (t : Table) : Loaded Bool := optional t "negated" false loadBoolean

/-- The fields of an expression of a given form. -/
def loadExprForm (t : Table) : Form → Loaded Expr
  | .constant => Expr.constant <$> required t "value" loadValue
  | .column => Expr.column <$> required t "column" loadColumn <*> optional t "value" .null loadValue
  | .unary =>
    Expr.unary <$> required t "operator" (loadMember UnaryOperator.vocabulary)
      <*> required t "expression" load
  | .postfixTest =>
    Expr.postfixTest <$> required t "operator" (loadMember PostfixTest.vocabulary)
      <*> required t "expression" load
  | .arithmetic =>
    Expr.arithmetic <$> required t "operator" (loadMember ArithmeticOperator.vocabulary)
      <*> required t "left" load <*> required t "right" load
  | .comparison =>
    Expr.comparison <$> required t "operator" (loadMember ComparisonOperator.vocabulary)
      <*> required t "left" load <*> required t "right" load
  | .connective =>
    Expr.connective <$> required t "operator" (loadMember Connective.vocabulary)
      <*> required t "left" load <*> required t "right" load
  | .collate =>
    Expr.collate <$> required t "expression" load <*> required t "collation" loadText
  | .typeName => Expr.typeName <$> required t "type" (loadMember CastTarget.vocabulary)
  | .cast => Expr.cast <$> required t "expression" load <*> required t "type" loadCastTarget
  | .between =>
    (fun e low high negated => Expr.between negated e low high) <$> required t "expression" load
      <*> required t "low" load <*> required t "high" load <*> loadNegated t
  | .isIn =>
    (fun e candidates negated => Expr.isIn negated e candidates) <$> required t "expression" load
      <*> required t "candidates" (loadList load) <*> loadNegated t
  | .sortTerm => Expr.sortTerm <$> loadSortTerm load t
  | .join => Expr.join <$> loadJoin load t
  | .existsRow =>
    (fun query negated => Expr.existsRow negated query)
      <$> required t "select" (loadSelectWith load) <*> loadNegated t
  | .subquery =>
    Expr.subquery <$> required t "select" (loadSelectWith load)
      <*> required t "expected_value" load
  | .call =>
    Expr.call <$> required t "function" (loadMember FunctionName.vocabulary)
      <*> required t "arguments" (loadList load)

/-- An expression, by way of a function that loads the expressions in it. -/
def loadExprWith : Data → Loaded Expr :=
  loadTagged fun tag t =>
    match Form.ofTag? tag with
    | some form => loadExprForm load t form
    | none => .problem .unknownKind

/-- An expression of data that is nested at most `depth` levels deep. -/
def loadExprWithin : Nat → Data → Loaded Expr
  | 0 => fun _ => .problems []
  | depth + 1 => loadExprWith (loadExprWithin depth)

/-- The expression that data holds. -/
def loadExpr (d : Data) : Loaded Expr := loadExprWithin d.depth d

/-- The statement that data holds. -/
def loadSelect (d : Data) : Loaded (Select Expr) := loadSelectWith (loadExprWithin d.depth) d

/-- The expression of a JSON document, for a reader that allows the given nesting of containers. -/
def loadExprDocumentWithin (limit : Nat) (document : Text) : Loaded Expr :=
  match Json.read limit document with
  | some d => loadExpr d
  | none => .problem .invalidDocument

/-- How deep the reader of the validation library lets containers be nested. -/
def maxDocumentDepth : Nat := 200

/-- The expression of a JSON document. -/
def loadExprDocument (document : Text) : Loaded Expr := loadExprDocumentWithin maxDocumentDepth document

end PivotOracle
