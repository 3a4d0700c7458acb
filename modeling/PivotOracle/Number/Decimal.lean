import PivotOracle.Number.Numeral
import PivotOracle.Number.Power

/-!
# Exact decimals

A decimal is a coefficient with a power of ten. The coefficient keeps its trailing zeros, so `3` and
`3.0` are equal numbers and different decimals.

* `Decimal.rounded` — the nearest decimal with a given number of digits, a tie going to the even
  coefficient.
* `Decimal.text` — positional while the exponent is not positive and the number is not very small,
  with an exponent otherwise.
-/

namespace PivotOracle

/-- The integer nearest to `num / den`; a tie goes to the even one. -/
def roundHalfEven (num den : Nat) : Nat :=
  let quotient := num / den
  let twice := 2 * (num % den)
  if twice < den then quotient
  else if den < twice then quotient + 1
  else quotient + quotient % 2

/-- The number `± coefficient * 10 ^ exponent`. -/
structure Decimal where
  negative : Bool
  coefficient : Nat
  exponent : Int
deriving DecidableEq, Repr

namespace Decimal

/-- The number that a decimal numeral stands for. -/
def ofNumeral (digit : DigitClass) (n : DecimalNumeral) : Decimal where
  negative := n.negative
  coefficient := digit.value (n.whole ++ n.fraction)
  exponent := ((n.exponent.map (·.value digit)).getD 0) - n.fraction.length

/-- The exponent of the first digit. -/
def adjusted (d : Decimal) : Int := d.exponent + digitCount d.coefficient - 1

/-- The greatest exponent that the first digit of an exact decimal may have. -/
def maxAdjusted : Int := 999999999999999999

/-- The least exponent that the last digit of an exact decimal may have. -/
def minExponent : Int := -1999999999999999997

/-- Whether the exponents of a decimal lie within the limits of exact decimals. -/
def isExact (d : Decimal) : Bool := d.adjusted ≤ maxAdjusted && minExponent ≤ d.exponent

/-- The nearest decimal with at most `digits` digits; a tie goes to the even coefficient. -/
def rounded (digits : Nat) (d : Decimal) : Decimal :=
  let dropped := digitCount d.coefficient - digits
  let coefficient := roundHalfEven d.coefficient (tenTo dropped)
  if coefficient = tenTo digits then
    { d with coefficient := tenTo (digits - 1), exponent := d.exponent + dropped + 1 }
  else { d with coefficient := coefficient, exponent := d.exponent + dropped }

/-- Whether the magnitude is greater than `n`. Exponents far apart decide it without computing the
power of ten. -/
def exceeds (d : Decimal) (n : Nat) : Bool :=
  if d.coefficient = 0 then false
  else if d.adjusted < digitCount n - 1 then false
  else if (digitCount n : Int) - 1 < d.adjusted then true
  else n * tenTo (-d.exponent).toNat < d.coefficient * tenTo d.exponent.toNat

/-- Whether the number is an integer. -/
def isIntegral (d : Decimal) : Bool :=
  d.coefficient = 0 || 0 ≤ d.exponent ||
    ((-d.exponent).toNat < digitCount d.coefficient &&
      d.coefficient % tenTo (-d.exponent).toNat = 0)

/-- The integer that an integral decimal is. -/
def toInt (d : Decimal) : Int :=
  if d.coefficient = 0 then 0
  else signed d.negative (d.coefficient * tenTo d.exponent.toNat / tenTo (-d.exponent).toNat)

/-- A decimal in print. -/
def text (d : Decimal) : Text :=
  let digits := Text.ofNat d.coefficient
  let sign : Text := if d.negative then "-" else ""
  /- How many digits stand before the point when there is no exponent. -/
  let whole : Int := d.exponent + digits.length
  if d.exponent ≤ 0 ∧ -6 < whole then
    sign ++
      if d.exponent = 0 then digits
      else if whole ≤ 0 then "0." ++ Text.zeros (-whole) ++ digits
      else digits.take whole.toNat ++ "." ++ digits.drop whole.toNat
  else
    let mantissa := if digits.length = 1 then digits else digits.take 1 ++ "." ++ digits.drop 1
    let power := whole - 1
    sign ++ mantissa ++ "E" ++ (if power < 0 then "" else "+") ++ Text.ofInt power

end Decimal

/-- What a decimal column may hold: a number, an infinity, or not a number at all. -/
inductive DecimalValue where
  | finite (d : Decimal)
  | infinite (negative : Bool)
  | notANumber (negative signalling : Bool) (payload : List Char)
deriving DecidableEq, Repr

namespace DecimalValue

/-- Lower-case letters of the Latin alphabet for upper-case ones. -/
private def lowered (t : Text) : Text :=
  t.map fun
    | .char c => .char c.toLower
    | s => s

/-- The payload digits of a value that is not a number, without leading zeros. -/
private def readPayload (t : Text) : Option (List Char) :=
  match t.takeDigits asciiDigit with
  | (digits, []) => some (digits.dropWhile (· = '0'))
  | _ => none

/-- Reads the printed form of a decimal. -/
def ofText? (t : Text) : Option DecimalValue :=
  match DecimalNumeral.read decimalDigit t with
  | some (n, []) => some (.finite (Decimal.ofNumeral decimalDigit n))
  | _ =>
    let (negative, word) := (lowered t).takeSign
    if word = "inf" ∨ word = "infinity" then some (.infinite negative)
    else if ("nan" : Text).isPrefixOf word then
      (readPayload (word.drop 3)).map (.notANumber negative false)
    else if ("snan" : Text).isPrefixOf word then
      (readPayload (word.drop 4)).map (.notANumber negative true)
    else none

/-- A decimal value in print. -/
def text : DecimalValue → Text
  | .finite d => d.text
  | .infinite negative => if negative then "-Infinity" else "Infinity"
  | .notANumber negative signalling payload =>
    (if negative then "-" else "") ++ (if signalling then "sNaN" else "NaN")
      ++ payload.map Symbol.char

end DecimalValue

end PivotOracle
