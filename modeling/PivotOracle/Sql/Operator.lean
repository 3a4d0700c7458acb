import PivotOracle.Vocabulary

/-!
# Operators

The enumerations from which expressions are built, each with its words.
-/

namespace PivotOracle

/-- The type of a value. -/
inductive ValueType where
  | null
  | integer
  | text
deriving DecidableEq, Repr

/-- The words for data types. -/
def ValueType.vocabulary : Vocabulary ValueType where
  title := "DataType"
  members := [.null, .integer, .text]
  name
    | .null => "NULL"
    | .integer => "INTEGER"
    | .text => "TEXT"
  spelling
    | .null => "null"
    | .integer => "int"
    | .text => "text"
  aliases :=
    [("integer", .integer), ("signed", .integer), ("bigint", .integer),
     ("varchar", .text), ("string", .text), ("char", .text)]
  ignoresCase := true

/-- The target of a cast. -/
inductive CastTarget where
  | signed
  | text
deriving DecidableEq, Repr

/-- The words for cast types. -/
def CastTarget.vocabulary : Vocabulary CastTarget where
  title := "CastType"
  members := [.signed, .text]
  name
    | .signed => "SIGNED"
    | .text => "TEXT"
  spelling
    | .signed => "signed"
    | .text => "text"
  aliases := [("integer", .signed), ("int", .signed), ("char", .text), ("varchar", .text)]
  ignoresCase := true

/-- An operator before its operand. -/
inductive UnaryOperator where
  | not
  | minus
  | plus
deriving DecidableEq, Repr

/-- The words for unary operators. -/
def UnaryOperator.vocabulary : Vocabulary UnaryOperator where
  title := "UnaryOperator"
  members := [.not, .minus, .plus]
  name
    | .not => "NOT"
    | .minus => "MINUS"
    | .plus => "PLUS"
  spelling
    | .not => "NOT"
    | .minus => "-"
    | .plus => "+"

/-- A test written after its operand. -/
inductive PostfixTest where
  | isNull
  | isNotNull
  | isTrue
  | isNotTrue
  | isFalse
  | isNotFalse
deriving DecidableEq, Repr

/-- The words for postfix tests. -/
def PostfixTest.vocabulary : Vocabulary PostfixTest where
  title := "PostfixOperator"
  members := [.isNull, .isNotNull, .isTrue, .isNotTrue, .isFalse, .isNotFalse]
  name
    | .isNull => "IS_NULL"
    | .isNotNull => "IS_NOT_NULL"
    | .isTrue => "IS_TRUE"
    | .isNotTrue => "IS_NOT_TRUE"
    | .isFalse => "IS_FALSE"
    | .isNotFalse => "IS_NOT_FALSE"
  spelling
    | .isNull => "IS NULL"
    | .isNotNull => "IS NOT NULL"
    | .isTrue => "IS TRUE"
    | .isNotTrue => "IS NOT TRUE"
    | .isFalse => "IS FALSE"
    | .isNotFalse => "IS NOT FALSE"

/-- An operator between two integers. -/
inductive ArithmeticOperator where
  | add
  | subtract
  | multiply
deriving DecidableEq, Repr

/-- The words for arithmetic operators. -/
def ArithmeticOperator.vocabulary : Vocabulary ArithmeticOperator where
  title := "ArithmeticOperator"
  members := [.add, .subtract, .multiply]
  name
    | .add => "ADD"
    | .subtract => "SUBTRACT"
    | .multiply => "MULTIPLY"
  spelling
    | .add => "+"
    | .subtract => "-"
    | .multiply => "*"

/-- An operator that compares two values. -/
inductive ComparisonOperator where
  | eq
  | ne
  | lt
  | le
  | gt
  | ge
  | nullSafeEq
deriving DecidableEq, Repr

/-- The words for comparison operators. -/
def ComparisonOperator.vocabulary : Vocabulary ComparisonOperator where
  title := "ComparisonOperator"
  members := [.eq, .ne, .lt, .le, .gt, .ge, .nullSafeEq]
  name
    | .eq => "EQ"
    | .ne => "NE"
    | .lt => "LT"
    | .le => "LTE"
    | .gt => "GT"
    | .ge => "GTE"
    | .nullSafeEq => "NULL_SAFE_EQ"
  spelling
    | .eq => "="
    | .ne => "!="
    | .lt => "<"
    | .le => "<="
    | .gt => ">"
    | .ge => ">="
    | .nullSafeEq => "<=>"
  aliases := [("<>", .ne)]

/-- A connective of two truth values. -/
inductive Connective where
  | and
  | or
  | xor
deriving DecidableEq, Repr

/-- The words for connectives. -/
def Connective.vocabulary : Vocabulary Connective where
  title := "BooleanOperator"
  members := [.and, .or, .xor]
  name
    | .and => "AND"
    | .or => "OR"
    | .xor => "XOR"
  spelling
    | .and => "and"
    | .or => "or"
    | .xor => "xor"
  aliases := [("&&", .and), ("||", .or)]
  ignoresCase := true

/-- How a table is joined. -/
inductive JoinKind where
  | inner
  | leftOuter
  | rightOuter
deriving DecidableEq, Repr

/-- The words for kinds of joins. -/
def JoinKind.vocabulary : Vocabulary JoinKind where
  title := "JoinType"
  members := [.inner, .leftOuter, .rightOuter]
  name
    | .inner => "INNER"
    | .leftOuter => "LEFT_OUTER"
    | .rightOuter => "RIGHT_OUTER"
  spelling
    | .inner => "inner"
    | .leftOuter => "left outer"
    | .rightOuter => "right outer"

/-- The direction of a sort. -/
inductive SortOrder where
  | ascending
  | descending
deriving DecidableEq, Repr

/-- The words for directions of a sort. -/
def SortOrder.vocabulary : Vocabulary SortOrder where
  title := "Ordering"
  members := [.ascending, .descending]
  name
    | .ascending => "ASCENDING"
    | .descending => "DESCENDING"
  spelling
    | .ascending => "asc"
    | .descending => "desc"

/-- The functions that an expression may call. Which of them a dialect has is a matter of its
registry. -/
inductive FunctionName where
  | abs
  | bitCount
  | benchmark
  | coalesce
  | ifElse
  | iif
  | ifNull
deriving DecidableEq, Repr

/-- The words for functions. -/
def FunctionName.vocabulary : Vocabulary FunctionName where
  title := "FunctionType"
  members := [.abs, .bitCount, .benchmark, .coalesce, .ifElse, .iif, .ifNull]
  name
    | .abs => "ABS"
    | .bitCount => "BIT_COUNT"
    | .benchmark => "BENCHMARK"
    | .coalesce => "COALESCE"
    | .ifElse => "IF"
    | .iif => "IIF"
    | .ifNull => "IFNULL"
  spelling
    | .abs => "abs"
    | .bitCount => "bit_count"
    | .benchmark => "benchmark"
    | .coalesce => "coalesce"
    | .ifElse => "if"
    | .iif => "iif"
    | .ifNull => "ifnull"
  ignoresCase := true

end PivotOracle
