import PivotOracle.RawValue

/-!
# Problems of stored trees

A document that should hold a tree is checked as a whole: what is wrong in one field does not hide
what is wrong in the next.

* `Loaded` — a value that was read, or all problems in the order of the fields.
-/

namespace PivotOracle

/-- What is wrong with a part of a document. -/
inductive Problem where
  /-- The text is no document. -/
  | invalidDocument
  /-- A required field is not there. -/
  | missing
  /-- One of several forms is wanted, and nothing says which. -/
  | noKind
  /-- One of several forms is wanted, and the kind given is none of them. -/
  | unknownKind
  /-- A form other than the one that is wanted here. -/
  | wrongKind
  /-- One of several forms is wanted, and the data is no table. -/
  | notTagged
  /-- A form is wanted, and the data is no table. -/
  | notModel
  /-- Data that means no member of an enumeration. -/
  | notMember
  | notText
  | notList
  | notColumns
  | notInteger
  /-- A text that is no integer numeral. -/
  | integerText
  /-- A number with a fraction where an integer is wanted. -/
  | fractional
  /-- An infinity or no number at all where an integer is wanted. -/
  | notFinite
  /-- A number too great to be taken as an integer. -/
  | integerSize
  | notBoolean
  /-- A number or text that is no truth value. -/
  | booleanText
  /-- A value that is no scalar. -/
  | value (e : ConversionError)
  /-- A word that is no type of a cast. -/
  | castTarget (u : UnknownWord)
deriving DecidableEq, Repr

/-- The code of a problem, or its wording where it is one of a value. -/
def Problem.text : Problem → Text
  | .invalidDocument => "json_invalid"
  | .missing => "missing"
  | .noKind => "union_tag_not_found"
  | .unknownKind => "union_tag_invalid"
  | .wrongKind => "literal_error"
  | .notTagged => "dict_type"
  | .notModel => "model_type"
  | .notMember => "enum"
  | .notText => "string_type"
  | .notList => "list_type"
  | .notColumns => "tuple_type"
  | .notInteger => "int_type"
  | .integerText => "int_parsing"
  | .fractional => "int_from_float"
  | .notFinite => "finite_number"
  | .integerSize => "int_parsing_size"
  | .notBoolean => "bool_type"
  | .booleanText => "bool_parsing"
  | .value e => e.message
  | .castTarget u => u.message

/-- A value read from a document, or the problems that stood against it. -/
inductive Loaded (α : Type) where
  | value (a : α)
  | problems (found : List Problem)
deriving Repr

namespace Loaded

variable {α β : Type}

/-- A single problem. -/
def problem (p : Problem) : Loaded α := .problems [p]

/-- A function and its argument, both read from a document: the problems of both are kept. -/
def apply (f : Loaded (α → β)) (a : Loaded α) : Loaded β :=
  match f, a with
  | .value f, .value a => .value (f a)
  | .value _, .problems found => .problems found
  | .problems found, .value _ => .problems found
  | .problems found, .problems more => .problems (found ++ more)

instance : Applicative Loaded where
  pure := .value
  seq f a := f.apply (a ())

/-- What was read must also pass a check. -/
def check (f : α → Loaded β) : Loaded α → Loaded β
  | .value a => f a
  | .problems found => .problems found

/-- The result of a conversion as what was read. -/
def ofExcept {ε : Type} (wrap : ε → Problem) : Except ε α → Loaded α
  | .ok a => .value a
  | .error e => problem (wrap e)

/-- What was read as the result of a computation. -/
def toExcept : Loaded α → Except (List Problem) α
  | .value a => .ok a
  | .problems found => .error found

end Loaded

end PivotOracle
