import PivotOracle.Sql.Scalar

/-!
# Expressions

The trees of SQL expressions over one row, the pivot row. A reference to a column carries the value
that the row has there, so that a tree has a value of its own. Joins, sort terms and types are
expressions too: they can stand alone, though the grammar of statements places them.
-/

namespace PivotOracle

/-- A column of a table. -/
structure Column where
  name : Text
  table : Text
  datatype : ValueType
deriving DecidableEq, Repr

/-- A column as it is named to people. -/
def Column.shown (c : Column) : Text := c.table ++ "." ++ c.name

/-- A table with the columns that are known of it. -/
structure SourceTable where
  name : Text
  columns : List Column
deriving DecidableEq, Repr

/-- A term of a sort. -/
structure SortTerm (ε : Type) where
  expression : ε
  order : SortOrder

/-- A table joined to a statement. -/
structure JoinClause (ε : Type) where
  table : SourceTable
  condition : ε
  kind : JoinKind

/-- A statement that selects rows. -/
structure Select (ε : Type) where
  columns : List ε
  tables : List SourceTable
  joins : List (JoinClause ε)
  filter : Option ε
  orderBy : List (SortTerm ε)
  limit : Option Int

/-- An expression over the pivot row. -/
inductive Expr where
  /-- A literal. -/
  | constant (v : Scalar)
  /-- A column, with the value that the pivot row has there. -/
  | column (c : Column) (v : Scalar)
  | unary (op : UnaryOperator) (e : Expr)
  | postfixTest (op : PostfixTest) (e : Expr)
  | arithmetic (op : ArithmeticOperator) (l r : Expr)
  | comparison (op : ComparisonOperator) (l r : Expr)
  | connective (op : Connective) (l r : Expr)
  /-- An expression whose texts compare by a named collation. -/
  | collate (e : Expr) (collation : Text)
  /-- The name of a type, which has no value. -/
  | typeName (t : CastTarget)
  | cast (e : Expr) (target : CastTarget)
  | between (negated : Bool) (e low high : Expr)
  | isIn (negated : Bool) (e : Expr) (candidates : List Expr)
  | sortTerm (term : SortTerm Expr)
  | join (clause : JoinClause Expr)
  /-- A test whether a subquery has rows. -/
  | existsRow (negated : Bool) (query : Select Expr)
  /-- A subquery with the one value that it is made to have. -/
  | subquery (query : Select Expr) (expected : Expr)
  | call (f : FunctionName) (arguments : List Expr)

namespace Expr

/-- Whether SQLite gives the value of an expression a column affinity, which converts the other side
of a comparison first. -/
def carriesAffinity : Expr → Bool
  | .column _ _ | .cast _ _ | .subquery _ _ => true
  | .collate e _ => e.carriesAffinity
  | .sortTerm term => term.expression.carriesAffinity
  | .unary .plus e => e.carriesAffinity
  | _ => false

/-- Whether an expression names its collation. -/
def isCollated : Expr → Bool
  | .collate _ _ => true
  | _ => false

end Expr

end PivotOracle
