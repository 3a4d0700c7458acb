import PivotOracle.Proofs.Lexeme

/-!
# Reading SQL text back

A reader of the SQL text of expressions. It goes by the words that start a text: they tell the kind
of an expression, or that an operand stands there between parentheses, after which more words tell
the operator. What the text does not show is left open: the value and the type of a column.

* `openings`, `continuations`, `castEndings` — the words that an expression starts and goes on with.
* `readExpr`, `readSql` — the reader.
-/

namespace PivotOracle

/-! ### Words -/

/-- What the words at the start of an expression announce. -/
inductive Opening where
  | literal
  | column
  | null
  /-- An operand between parentheses, with an operator after it. -/
  | operand
  | unary (op : UnaryOperator)
  | cast
  | call (f : FunctionName)
deriving DecidableEq, Repr

/-- What the words after a first operand announce. -/
inductive Continuation where
  | test (op : PostfixTest)
  | arithmetic (op : ArithmeticOperator)
  | comparison (op : ComparisonOperator)
  | connective (op : Connective)
  | between (negated : Bool)
  | among (negated : Bool)
deriving DecidableEq, Repr

/-- The word of a unary operator. -/
def unaryWord : UnaryOperator → Text
  | .not => "NOT "
  | op => UnaryOperator.vocabulary.spelling op

namespace Opening

/-- The words at the start of an expression of a kind, if the dialect has it. -/
def word (d : Dialect) : Opening → Option Text
  | .literal => some "'"
  | .column => some [d.quoteSymbol]
  | .null => some "NULL"
  | .operand => some "("
  | .unary op => some (unaryWord op ++ "(")
  | .cast => some "CAST("
  | .call f => (d.callForm f).toOption.map fun form => form.1 ++ "("

/-- All that words at the start of an expression announce. -/
def all : List Opening :=
  [.literal, .column, .null, .operand, .cast] ++ UnaryOperator.vocabulary.members.map .unary
    ++ FunctionName.vocabulary.members.map .call

theorem mem_all (opening : Opening) : opening ∈ all := by
  cases opening with
  | unary op => cases op <;> decide
  | call f => cases f <;> decide
  | _ => decide

end Opening

namespace Continuation

/-- The words of an operator after its first operand, up to the parenthesis that opens the next. -/
def word (d : Dialect) : Continuation → Option Text
  | .test op => some (" " ++ PostfixTest.vocabulary.spelling op)
  | .arithmetic op => some (" " ++ ArithmeticOperator.vocabulary.spelling op ++ " " ++ "(")
  | .comparison op => some (" " ++ d.comparisonSign op ++ " " ++ "(")
  | .connective op => (d.connectiveKeyword op).toOption.map fun keyword => " " ++ keyword ++ " " ++ "("
  | .between negated => some ((if negated then " NOT BETWEEN " else " BETWEEN ") ++ "(")
  | .among negated => some ((if negated then " NOT IN " else " IN ") ++ "(")

/-- All that words after a first operand announce. -/
def all : List Continuation :=
  PostfixTest.vocabulary.members.map .test ++ ArithmeticOperator.vocabulary.members.map .arithmetic
    ++ ComparisonOperator.vocabulary.members.map .comparison
    ++ Connective.vocabulary.members.map .connective
    ++ [.between false, .between true, .among false, .among true]

theorem mem_all (continuation : Continuation) : continuation ∈ all := by
  cases continuation with
  | test op => cases op <;> decide
  | arithmetic op => cases op <;> decide
  | comparison op => cases op <;> decide
  | connective op => cases op <;> decide
  | between negated => cases negated <;> decide
  | among negated => cases negated <;> decide

end Continuation

/-- The words that start an expression. -/
def openings (d : Dialect) : List (Text × Opening) := keywordTable Opening.all (Opening.word d)

/-- The words that follow a first operand. -/
def continuations (d : Dialect) : List (Text × Continuation) :=
  keywordTable Continuation.all (Continuation.word d)

/-- The words that end a cast. -/
def castEndings (d : Dialect) : List (Text × CastTarget) :=
  keywordTable CastTarget.vocabulary.members fun target => some (" AS " ++ d.castKeyword target ++ ")")

/-- The words after one of several expressions, and whether it is the last one. -/
def separators : List (Text × Bool) := [(")", true), (", ", false)]

theorem openings_prefixFree (d : Dialect) : PrefixFree (openings d) := by
  cases d <;> decide

theorem continuations_prefixFree (d : Dialect) : PrefixFree (continuations d) := by
  cases d <;> decide +kernel

theorem castEndings_prefixFree (d : Dialect) : PrefixFree (castEndings d) := by
  cases d <;> decide

theorem separators_prefixFree : PrefixFree separators := by decide

/-- No word that starts an expression starts an integer. -/
theorem openings_refuseDigits (d : Dialect) :
    ∀ entry ∈ openings d, entry.1.refusesDigits = true := by
  cases d <;> decide

/-! ### The reader -/

section Reader

variable (read : Text → Option (Expr × Text))

/-- An expression that a parenthesis closes. -/
def readClosed (t : Text) : Option (Expr × Text) := do
  let (e, t) ← read t
  let t ← t.dropPrefix? ")"
  return (e, t)

/-- Expressions with commas between them that a parenthesis closes, at least one and at most
`count`. -/
def readItems : Nat → Text → Option (List Expr × Text)
  | 0, _ => none
  | count + 1, t => do
    let (e, t) ← read t
    let (last, t) ← readKeyword separators t
    if last then return ([e], t)
    else
      let (es, t) ← readItems count t
      return (e :: es, t)

/-- Expressions that a parenthesis closes, or the parenthesis alone. -/
def readList (t : Text) : Option (List Expr × Text) :=
  match readItems read t.length t with
  | some result => some result
  | none => (t.dropPrefix? ")").map fun t => ([], t)

/-- What follows a first operand, as a whole with it. -/
def readContinuation (e : Expr) : Continuation → Text → Option (Expr × Text)
  | .test op, t => some (.postfixTest op e, t)
  | .arithmetic op, t => (readClosed read t).map fun (r, t) => (.arithmetic op e r, t)
  | .comparison op, t => (readClosed read t).map fun (r, t) => (.comparison op e r, t)
  | .connective op, t => (readClosed read t).map fun (r, t) => (.connective op e r, t)
  | .between negated, t => do
    let (low, t) ← readClosed read t
    let t ← t.dropPrefix? (" AND " ++ "(")
    let (high, t) ← readClosed read t
    return (.between negated e low high, t)
  | .among negated, t => (readList read t).map fun (es, t) => (.isIn negated e es, t)

/-- What follows the words at the start of an expression, as a whole with them. -/
def readOpened (d : Dialect) : Opening → Text → Option (Expr × Text)
  | .literal, t =>
    (Text.readQuoted (.char '\'') d.escapesBackslash t).map fun (content, t) =>
      (.constant (.text content), t)
  | .column, t => do
    let (table, t) ← Text.readQuoted d.quoteSymbol false t
    let t ← t.dropPrefix? ("." ++ [d.quoteSymbol])
    let (name, t) ← Text.readQuoted d.quoteSymbol false t
    return (.column ⟨name, table, .null⟩ .null, t)
  | .null, t => some (.constant .null, t)
  | .operand, t => do
    let (e, t) ← readClosed read t
    let (continuation, t) ← readKeyword (continuations d) t
    readContinuation read e continuation t
  | .unary op, t => (readClosed read t).map fun (e, t) => (.unary op e, t)
  | .cast, t => do
    let (e, t) ← read t
    let (target, t) ← readKeyword (castEndings d) t
    return (.cast e target, t)
  | .call f, t => (readList read t).map fun (es, t) => (.call f es, t)

/-- The expression that starts a text, and the text after it, where `read` reads the expressions in
it. -/
def readStep (d : Dialect) (t : Text) : Option (Expr × Text) :=
  match readBigint t with
  | some (n, t) => some (.constant (.int n), t)
  | none => do
    let (opening, t) ← readKeyword (openings d) t
    readOpened read d opening t

end Reader

/-- The expression that starts a text, and the text after it. Expressions are read up to a depth. -/
def readExpr (d : Dialect) : Nat → Text → Option (Expr × Text)
  | 0, _ => none
  | depth + 1, t => readStep (readExpr d depth) d t

/-- The expression that starts a text, and the text after it. -/
def readSql (d : Dialect) (t : Text) : Option (Expr × Text) := readExpr d (t.length + 1) t

end PivotOracle
