import PivotOracle.Number.Binary64
import PivotOracle.Predict.Failure

/-!
# Readings of text

What number an engine reads a text as. MySQL reads the longest numeral after leading blanks, as an
integer in a cast and as a double in a comparison. SQLite's reading is predicted for two kinds of text
alone: an integer literal, and a text that starts with a letter.

* `readSigned`, `readDouble` — the readings of MySQL, over a digit class.
* `isIntegerNumeral`, `readLiteral` — integer literals and the reading of SQLite.
-/

namespace PivotOracle

/-- The characters that numerals are made of. -/
def numeralDigit : DigitClass := decimalDigit

/-- A text after the spaces and tabs that start it. -/
def Text.skipBlanks (t : Text) : Text :=
  t.dropWhile fun s => s = .char ' ' || s = .char '\t'

/-- The value of an integer numeral, which must not have too many digits. -/
def IntegerNumeral.readValue (digit : DigitClass) (n : IntegerNumeral) : Except Failure Int :=
  if n.digits.length ≤ maxDigits then .ok (n.value digit)
  else .error (.tooManyDigits n.digits.length)

/-- The most digits of a signed 64-bit integer. -/
def maxBigintDigits : Nat := 19

/-- The value of a text that is cast to an integer: the integer numeral after the leading blanks, or
zero where there is none. -/
def readSigned (digit : DigitClass) (t : Text) : Except Failure Bigint :=
  let rest := t.skipBlanks
  if rest.head? = some (.char '\n') then .error (.discard (.leadingNewline .integer t))
  else match IntegerNumeral.read digit rest with
    | none => .ok 0
    | some (n, _) =>
      if maxBigintDigits < (n.digits.dropWhile (· = '0')).length then
        .error (.discard (.integerPrefix t))
      else do
        match Bigint.ofInt? (← n.readValue digit) with
        | some b => .ok b
        | none => .error (.discard (.integerPrefix t))

/-- How many digits a decimal number is rounded to before it is compared with the greatest
double. -/
def comparedDigits : Nat := 28

/-- The greatest exponent of a decimal number that can be rounded. -/
def maxRoundedExponent : Int := 999999

/-- The double of a decimal number that starts the text `t`. -/
def doubleOf (t : Text) (d : Decimal) : Except Failure Binary64 :=
  let magnitude := d.rounded comparedDigits
  if !d.isExact then .error (.discard (.numericPrefix t))
  else if d.coefficient ≠ 0 ∧ maxRoundedExponent < magnitude.adjusted then .error .decimalOverflow
  else if magnitude.exceeds Binary64.maxValue then .error (.discard (.numericPrefix t))
  else match Binary64.ofDecimal? d with
    | some x => .ok x
    | none => .error (.discard (.numericPrefix t))

/-- The value of a text in a numeric context: the decimal numeral after the leading blanks, or zero
where there is none. -/
def readDouble (digit : DigitClass) (t : Text) : Except Failure Binary64 :=
  let rest := t.skipBlanks
  if rest.head? = some (.char '\n') then .error (.discard (.leadingNewline .double t))
  else match DecimalNumeral.read digit rest with
    | none => .ok (.zero false)
    | some (n, _) => doubleOf t (.ofNumeral digit n)

/-- The integer numeral that a whole text is. -/
def wholeNumeral? (digit : DigitClass) (t : Text) : Option IntegerNumeral :=
  match IntegerNumeral.read digit t with
  | some (n, []) => some n
  | _ => none

/-- Whether a text is an integer literal: a sign and digits, and nothing else. -/
def isIntegerNumeral (digit : DigitClass) (t : Text) : Bool := (wholeNumeral? digit t).isSome

/-- Whether a text surely starts with no number: it is empty or starts with a letter of the Latin
alphabet. -/
def startsWithoutNumber : Text → Bool
  | [] => true
  | .char c :: _ => c.isAlpha
  | .byte _ :: _ => false

/-- The integer that SQLite reads a text as, where that is certain. -/
def readLiteral (digit : DigitClass) (t : Text) : Except Failure Bigint :=
  match wholeNumeral? digit t with
  | some n => do
    match Bigint.ofInt? (← n.readValue digit) with
    | some b => .ok b
    | none => .error (.discard (.readAsReal t))
  | none =>
    if startsWithoutNumber t then .ok 0 else .error (.discard (.unknownReading t))

/-- A text that starts with a newline or a period after its leading blanks has a numeric reading that
is not certain anywhere. Every other value passes. -/
def requireSafeStart : Scalar → Except Failure Unit
  | .text t =>
    let first := t.skipBlanks.head?
    if first = some (.char '\n') ∨ first = some (.char '.') then
      .error (.discard (.leadingText t))
    else .ok ()
  | _ => .ok ()

end PivotOracle
