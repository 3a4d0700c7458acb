import PivotOracle.Stored.Problem
import PivotOracle.Text.Blank

/-!
# Lenient fields

Fields of integers and truth values take more than one form of data: an integer may be written as a
number without a fraction, as a truth value or as a text, a truth value also as a number or a word.
-/

namespace PivotOracle

/-- The digits of a plain numeral: a single zero, or digits of which the first is not zero. -/
def isPlainDigits (digits : List Char) : Bool :=
  digits = ['0'] || digits.head? ≠ some '0'

/-- The value of a text that is a plain numeral: a minus or no sign, and plain digits. Too many digits
are refused whatever follows them. -/
def plainInteger (t : Text) : Loaded Int :=
  match IntegerNumeral.read asciiDigit t with
  | none => .problem .integerText
  | some (n, rest) =>
    if t.head? = some (.char '+') || !isPlainDigits n.digits then .problem .integerText
    else if maxDigits < n.digits.length then .problem .integerSize
    else if rest.isEmpty then .value (n.value asciiDigit)
    else .problem .integerText

/-- A text without the zeros, and the underscores among them, that start it; the last zero stays where
no other digit follows. The text must start with a digit. What follows the dropped zeros must be another
digit, a minus sign or a point. -/
def dropLeadingZeros (t : Text) : Option Text :=
  match t with
  | .char '0' :: rest =>
    let isFiller (s : Symbol) : Bool := s = .char '0' || s = .char '_'
    match rest.dropWhile isFiller with
    | [] => some (t.drop (t.length - 1))
    | .char '.' :: after => some (t.drop (t.length - after.length - 2))
    | .char c :: after => if c.isDigit || c = '-' then some (.char c :: after) else none
    | .byte _ :: _ => none
  | .char c :: _ => if c.isDigit then some t else none
  | _ => none

/-- A text without the fraction at its end, where that has digits and all of them are zeros. -/
def dropZeroFraction (t : Text) : Text :=
  match t.dropWhile (· ≠ .char '.') with
  | _ :: fraction =>
    if !fraction.isEmpty && fraction.all (· = .char '0') then t.takeWhile (· ≠ .char '.') else t
  | [] => t

/-- Whether a text holds two underscores in a row. -/
def hasDoubleUnderscore : Text → Bool
  | .char '_' :: .char '_' :: _ => true
  | _ :: t => hasDoubleUnderscore t
  | [] => false

/-- A text without its underscores, where each stands alone between other symbols. -/
def dropUnderscores (t : Text) : Text :=
  if t.head? = some (.char '_') || t.getLast? = some (.char '_') || hasDoubleUnderscore t then t
  else t.filter (· ≠ .char '_')

/-- The plain numeral that a text comes to without white space around it, a plus sign, leading zeros,
a fraction of zeros and underscores between digits. -/
def tidiedNumeral (t : Text) : Option Text := do
  let (negative, unsigned) := t.trimWhiteSpace.takeSign
  let digits ← dropLeadingZeros unsigned
  return dropUnderscores (dropZeroFraction (if negative then .char '-' :: digits else digits))

/-- The integer of a text: that of a plain numeral, or that of a text which tidies to one. -/
def lenientInteger (t : Text) : Loaded Int :=
  match plainInteger t, tidiedNumeral t with
  | .value n, _ => .value n
  | .problems [.integerSize], _ => .problem .integerSize
  | .problems _, none => .problem .integerText
  | .problems _, some tidied =>
    match plainInteger tidied with
    | .value n => .value n
    | .problems _ => .problem .integerText

/-- An integer of a double without fraction, strictly between the bounds of the signed 64-bit
integers. -/
def integerOfDouble : Double → Loaded Int
  | .finite x =>
    if !x.isIntegral then .problem .fractional
    else if minBigint < x.toInt ∧ x.toInt ≤ maxBigint then .value x.toInt
    else .problem .integerSize
  | _ => .problem .notFinite

/-- The integer of a field. -/
def loadInteger : Data → Loaded Int
  | .int n => .value n
  | .bool b => .value (if b then 1 else 0)
  | .double x => integerOfDouble x
  | .text t => lenientInteger t
  | _ => .problem .notInteger

/-- The words for false and for true, in lower case. -/
def booleanWords : List (Text × Bool) :=
  [("0", false), ("off", false), ("f", false), ("false", false), ("n", false), ("no", false),
   ("1", true), ("on", true), ("t", true), ("true", true), ("y", true), ("yes", true)]

/-- The truth value of an integer that is zero or one. -/
def booleanOfInteger (n : Int) : Loaded Bool :=
  if n = 0 then .value false else if n = 1 then .value true else .problem .booleanText

/-- The truth value of a field. -/
def loadBoolean : Data → Loaded Bool
  | .bool b => .value b
  | .int n =>
    if minBigint ≤ n ∧ n ≤ maxBigint then booleanOfInteger n else .problem .notBoolean
  | .double x =>
    match integerOfDouble x with
    | .value n => booleanOfInteger n
    | .problems _ => .problem .notBoolean
  | .text t =>
    match booleanWords.lookup (t.map fun | .char c => .char c.toLower | s => s) with
    | some b => .value b
    | none => .problem .booleanText
  | _ => .problem .notBoolean

end PivotOracle
