import PivotOracle.Text.Digit

/-!
# Numerals

How integers are written in decimal, and the two grammars by which a text may start with a number:
integer numerals (a sign and digits) and decimal numerals (with a fraction and an exponent). Both are
read greedily over a digit class, and what they stand for is a separate step.

* `IntegerNumeral.read`, `DecimalNumeral.read` — the longest numeral that starts a text, and the
  text after it.
-/

namespace PivotOracle

/-- The digits of a natural number. -/
def Text.ofNat (n : Nat) : Text := (Nat.toDigits 10 n).map .char

/-- An integer: a minus sign where there is need of one, and the digits. -/
def Text.ofInt : Int → Text
  | .ofNat n => Text.ofNat n
  | .negSucc n => .char '-' :: Text.ofNat (n + 1)

/-- A run of zeros; none for a negative length. -/
def Text.zeros (n : Int) : Text := List.replicate n.toNat (.char '0')

/-- How many decimal digits a natural number has; zero has one. -/
def digitCount (n : Nat) : Nat := (Nat.toDigits 10 n).length

/-- An integer with the sign of a numeral. -/
def signed (negative : Bool) (n : Nat) : Int := if negative then -(n : Int) else n

/-- A sign, if one stands there: whether it is a minus, and the text after it. -/
def Text.takeSign : Text → Bool × Text
  | .char '-' :: t => (true, t)
  | .char '+' :: t => (false, t)
  | t => (false, t)

/-- A sign and one or more digits. -/
structure IntegerNumeral where
  negative : Bool
  digits : List Char
deriving DecidableEq, Repr

namespace IntegerNumeral

/-- The longest integer numeral that starts a text, and the text after it. -/
def read (digit : DigitClass) (t : Text) : Option (IntegerNumeral × Text) :=
  let (negative, unsigned) := t.takeSign
  match unsigned.takeDigits digit with
  | ([], _) => none
  | (digits, rest) => some (⟨negative, digits⟩, rest)

/-- The integer that a numeral stands for. -/
def value (digit : DigitClass) (n : IntegerNumeral) : Int :=
  signed n.negative (digit.value n.digits)

end IntegerNumeral

/-- A sign, digits before and after the point, and an exponent. One of the two runs of digits is not
empty. -/
structure DecimalNumeral where
  negative : Bool
  whole : List Char
  fraction : List Char
  exponent : Option IntegerNumeral
deriving DecidableEq, Repr

namespace DecimalNumeral

/-- The digits before and after the point. Digits after it may be missing where there are some
before it, and the other way round. -/
def readDigits (digit : DigitClass) (t : Text) : Option (List Char × List Char × Text) :=
  match t.takeDigits digit with
  | ([], .char '.' :: rest) =>
    match Text.takeDigits digit rest with
    | ([], _) => none
    | (fraction, rest) => some ([], fraction, rest)
  | ([], _) => none
  | (whole, .char '.' :: rest) =>
    let (fraction, rest) := Text.takeDigits digit rest
    some (whole, fraction, rest)
  | (whole, rest) => some (whole, [], rest)

/-- An exponent, if a whole one stands there. -/
def readExponent (digit : DigitClass) (t : Text) : Option (IntegerNumeral × Text) :=
  match t with
  | .char 'e' :: rest => IntegerNumeral.read digit rest
  | .char 'E' :: rest => IntegerNumeral.read digit rest
  | _ => none

/-- The longest decimal numeral that starts a text, and the text after it. -/
def read (digit : DigitClass) (t : Text) : Option (DecimalNumeral × Text) :=
  let (negative, unsigned) := t.takeSign
  match readDigits digit unsigned with
  | none => none
  | some (whole, fraction, rest) =>
    match readExponent digit rest with
    | none => some (⟨negative, whole, fraction, none⟩, rest)
    | some (exponent, rest) => some (⟨negative, whole, fraction, some exponent⟩, rest)

end DecimalNumeral

end PivotOracle
