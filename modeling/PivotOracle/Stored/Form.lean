import PivotOracle.Vocabulary

/-!
# Forms of expressions

A stored expression says of what form it is, and the form fixes the fields that it has.
-/

namespace PivotOracle

/-- The form of a stored expression. -/
inductive Form where
  | constant
  | column
  | unary
  | postfixTest
  | arithmetic
  | comparison
  | connective
  | collate
  | typeName
  | cast
  | between
  | isIn
  | sortTerm
  | join
  | existsRow
  | subquery
  | call
deriving DecidableEq, Repr

namespace Form

/-- The word for a form. -/
def tag : Form → Text
  | .constant => "constant"
  | .column => "column"
  | .unary => "unary"
  | .postfixTest => "postfix"
  | .arithmetic => "binary"
  | .comparison => "comparison"
  | .connective => "conditional"
  | .collate => "collate"
  | .typeName => "type"
  | .cast => "cast"
  | .between => "between"
  | .isIn => "in"
  | .sortTerm => "ordering"
  | .join => "join"
  | .existsRow => "exists"
  | .subquery => "subquery"
  | .call => "function"

/-- All forms. -/
def all : List Form :=
  [.constant, .column, .unary, .postfixTest, .arithmetic, .comparison, .connective, .collate,
   .typeName, .cast, .between, .isIn, .sortTerm, .join, .existsRow, .subquery, .call]

/-- The form that a word stands for. -/
def ofTag? (word : Text) : Option Form := all.find? fun form => form.tag = word

/-- Each form has a word of its own. -/
theorem ofTag?_tag (form : Form) : ofTag? form.tag = some form := by
  cases form <;> decide

end Form

/-- The word for statements. -/
def selectTag : Text := "select"

end PivotOracle
