import PivotOracle.Predict.Failure
import PivotOracle.Sql.Expr

/-!
# SQL text

How expressions and statements are written in a dialect. Every operand of an operator stands between
parentheses, so that precedence has no say. A construct that the dialect lacks has no text.

* `Dialect.quote`, `Dialect.literal` — identifiers and values.
* `Expr.render`, `Select.render` — expressions and statements.
* `Expr.validate` — the text of an expression that is refused as a whole where a construct is lacking.
* `Expr.query` — the statement that asks an engine for the value of an expression.
-/

namespace PivotOracle

namespace Dialect

/-- The symbol on both sides of a quoted identifier. -/
def quoteSymbol : Dialect → Symbol
  | .mysql => .char '`'
  | .sqlite => .char '"'

/-- An identifier between quotes; a quote inside it is written twice. -/
def quote (d : Dialect) (identifier : Text) : Text :=
  [d.quoteSymbol] ++ identifier.replace d.quoteSymbol [d.quoteSymbol, d.quoteSymbol]
    ++ [d.quoteSymbol]

/-- Whether a backslash in a literal starts an escape. -/
def escapesBackslash : Dialect → Bool
  | .mysql => true
  | .sqlite => false

/-- A value as a literal: in a text every single quote is written twice, and so is every backslash
where it would start an escape. -/
def literal (d : Dialect) : Scalar → Text
  | .text t =>
    let escaped := if d.escapesBackslash then t.replace (.char '\\') "\\\\" else t
    "'" ++ escaped.replace (.char '\'') "''" ++ "'"
  | v => v.shown

/-- The keyword of a type in a cast. -/
def castKeyword : Dialect → CastTarget → Text
  | .mysql, .signed => "SIGNED"
  | .mysql, .text => "CHAR"
  | .sqlite, .signed => "INTEGER"
  | .sqlite, .text => "TEXT"

/-- The sign of a comparison. -/
def comparisonSign : Dialect → ComparisonOperator → Text
  | .sqlite, .nullSafeEq => "IS"
  | _, op => ComparisonOperator.vocabulary.spelling op

/-- The keyword of a connective, if the dialect has it. -/
def connectiveKeyword : Dialect → Connective → Except Failure Text
  | _, .and => .ok "AND"
  | _, .or => .ok "OR"
  | .mysql, .xor => .ok "XOR"
  | .sqlite, .xor => .error (.unsupported (.connective .xor) .sqlite)

/-- How a call is written: the name of the function, and how many of the arguments follow it, if not
all. -/
def callForm : Dialect → FunctionName → Except Failure (Text × Option Nat)
  | _, .abs => .ok ("ABS", some 1)
  | .mysql, .bitCount => .ok ("BIT_COUNT", some 1)
  | .mysql, .benchmark => .ok ("BENCHMARK", some 2)
  | _, .coalesce => .ok ("COALESCE", none)
  | .mysql, .ifElse => .ok ("IF", some 3)
  | .sqlite, .iif => .ok ("IIF", some 3)
  | _, .ifNull => .ok ("IFNULL", some 2)
  | d, f => .error (.unsupported (.function f) d)

end Dialect

/-- The keywords of a join. -/
def JoinKind.keyword : JoinKind → Text
  | .inner => "INNER JOIN"
  | .leftOuter => "LEFT OUTER JOIN"
  | .rightOuter => "RIGHT OUTER JOIN"

/-- The keyword of a direction. -/
def SortOrder.keyword : SortOrder → Text
  | .ascending => "ASC"
  | .descending => "DESC"

/-- The texts with a comma between neighbours. -/
def Text.commaList (parts : List Text) : Text := (", " : Text).intercalate parts

/-- A text between parentheses. -/
def Text.parenthesized (t : Text) : Text := "(" ++ t ++ ")"

/-- A column with the name of its table. -/
def Column.render (d : Dialect) (c : Column) : Text := d.quote c.table ++ "." ++ d.quote c.name

/-- The name of a table. -/
def SourceTable.render (d : Dialect) (t : SourceTable) : Text := d.quote t.name

/-- A call of which the arguments are written. -/
def callText (form : Text × Option Nat) (arguments : List Text) : Except Failure Text :=
  let written := match form.2 with
    | some count => arguments.take count
    | none => arguments
  if written.length < form.2.getD 0 then .error .missingArgument
  else .ok (form.1 ++ (Text.commaList written).parenthesized)

/-- A clause with its leading blank, or nothing where it has no parts. -/
def clauseText (keyword : Text) (parts : List Text) : Text :=
  if parts.isEmpty then "" else " " ++ keyword ++ " " ++ Text.commaList parts

/-- A statement of which the parts are written. Its limit is written whatever it is. That an integer of more than 4300
digits has no text is left out here: no document has such a limit, so it could only come of building the statement. -/
def selectText (columns tables joins : List Text) (filter : Option Text) (orderBy : List Text)
    (limit : Option Int) : Text :=
  let columnList : Text := if columns.isEmpty then "*" else Text.commaList columns
  let joinClauses : Text := joins.flatMap fun t => .char ' ' :: t
  let filterClause : Text := match filter with
    | some t => " WHERE " ++ t
    | none => []
  let limitClause : Text := match limit with
    | some n => " LIMIT " ++ Text.ofInt n
    | none => []
  "SELECT " ++ columnList ++ clauseText "FROM" tables ++ joinClauses ++ filterClause
    ++ clauseText "ORDER BY" orderBy ++ limitClause

mutual

/-- The text of an expression in a dialect. -/
def Expr.render (d : Dialect) : Expr → Except Failure Text
  | .constant v => .ok (d.literal v)
  | .column c _ => .ok (c.render d)
  | .unary op e => do
    let operand ← e.render d
    return match op with
      | .not => "NOT " ++ operand.parenthesized
      | op => UnaryOperator.vocabulary.spelling op ++ operand.parenthesized
  | .postfixTest op e => do
    return (← e.render d).parenthesized ++ " " ++ PostfixTest.vocabulary.spelling op
  | .arithmetic op l r => do
    let a ← l.render d
    let b ← r.render d
    return a.parenthesized ++ " " ++ ArithmeticOperator.vocabulary.spelling op ++ " "
      ++ b.parenthesized
  | .comparison op l r => do
    let a ← l.render d
    let b ← r.render d
    return a.parenthesized ++ " " ++ d.comparisonSign op ++ " " ++ b.parenthesized
  | .connective op l r => do
    let keyword ← d.connectiveKeyword op
    let a ← l.render d
    let b ← r.render d
    return a.parenthesized ++ " " ++ keyword ++ " " ++ b.parenthesized
  | .collate e collation => do
    return (← e.render d).parenthesized ++ " COLLATE " ++ collation
  | .typeName t => .ok (d.castKeyword t)
  | .cast e target => do
    return "CAST(" ++ (← e.render d) ++ " AS " ++ d.castKeyword target ++ ")"
  | .between negated e low high => do
    let v ← e.render d
    let a ← low.render d
    let b ← high.render d
    return v.parenthesized ++ (if negated then " NOT BETWEEN " else " BETWEEN ")
      ++ a.parenthesized ++ " AND " ++ b.parenthesized
  | .isIn negated e candidates => do
    let parts ← Expr.renderAll d candidates
    let v ← e.render d
    return v.parenthesized ++ (if negated then " NOT IN " else " IN ")
      ++ (Text.commaList parts).parenthesized
  | .sortTerm ⟨e, order⟩ => do return (← e.render d) ++ " " ++ order.keyword
  | .join ⟨table, condition, kind⟩ => do
    return kind.keyword ++ " " ++ table.render d ++ " ON " ++ (← condition.render d)
  | .existsRow negated ⟨columns, tables, joins, filter, orderBy, limit⟩ => do
    let columns ← Expr.renderAll d columns
    let joins ← Expr.renderJoins d joins
    let filter ← Expr.renderFilter d filter
    let orderBy ← Expr.renderSort d orderBy
    return (if negated then "NOT EXISTS " else "EXISTS ")
      ++ (selectText columns (tables.map (·.render d)) joins filter orderBy limit).parenthesized
  | .subquery ⟨columns, tables, joins, filter, orderBy, limit⟩ _ => do
    let columns ← Expr.renderAll d columns
    let joins ← Expr.renderJoins d joins
    let filter ← Expr.renderFilter d filter
    let orderBy ← Expr.renderSort d orderBy
    return (selectText columns (tables.map (·.render d)) joins filter orderBy limit).parenthesized
  | .call f arguments => do
    let form ← d.callForm f
    callText form (← Expr.renderAll d arguments)

/-- The texts of expressions, in order. -/
def Expr.renderAll (d : Dialect) : List Expr → Except Failure (List Text)
  | [] => .ok []
  | e :: rest => do
    let t ← e.render d
    return t :: (← Expr.renderAll d rest)

/-- The texts of joins, in order. -/
def Expr.renderJoins (d : Dialect) : List (JoinClause Expr) → Except Failure (List Text)
  | [] => .ok []
  | ⟨table, condition, kind⟩ :: rest => do
    let t ← condition.render d
    return (kind.keyword ++ " " ++ table.render d ++ " ON " ++ t) :: (← Expr.renderJoins d rest)

/-- The text of a condition on rows, if there is one. -/
def Expr.renderFilter (d : Dialect) : Option Expr → Except Failure (Option Text)
  | none => .ok none
  | some condition => do return some (← condition.render d)

/-- The texts of sort terms, in order. -/
def Expr.renderSort (d : Dialect) : List (SortTerm Expr) → Except Failure (List Text)
  | [] => .ok []
  | ⟨e, order⟩ :: rest => do
    let t ← e.render d
    return (t ++ " " ++ order.keyword) :: (← Expr.renderSort d rest)

end

/-- The text of a statement in a dialect. -/
def Select.render (d : Dialect) (s : Select Expr) : Except Failure Text := do
  let columns ← Expr.renderAll d s.columns
  let joins ← Expr.renderJoins d s.joins
  let filter ← Expr.renderFilter d s.filter
  let orderBy ← Expr.renderSort d s.orderBy
  return selectText columns (s.tables.map (·.render d)) joins filter orderBy s.limit

/-- A text that is refused before use where it would show a construct that the dialect lacks. -/
def validated (text : Except Failure Text) : Except Failure Text :=
  match text with
  | .error (.unsupported c d) => .error (.rejected c d)
  | _ => text

/-- The text of an expression that passes validation. -/
def Expr.validate (d : Dialect) (e : Expr) : Except Failure Text := validated (e.render d)

/-- The text of a statement that passes validation. -/
def Select.validate (d : Dialect) (s : Select Expr) : Except Failure Text := validated (s.render d)

/-- The statement whose single value an expression is. -/
def Expr.query (d : Dialect) (e : Expr) : Except Failure Text := do
  return "SELECT " ++ (← e.render d)

end PivotOracle
