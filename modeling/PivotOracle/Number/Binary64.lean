import PivotOracle.Number.Decimal

/-!
# Doubles

The numbers of IEEE 754 binary64. A finite double is a significand with a power of two, counted from
the least one, so that the magnitude of every finite double is an integer number of units
`2 ^ -1074` and two doubles compare as integers.

* `Binary64.ofQuotient` — the double nearest to a quotient, a tie going to the even significand.
* `Double.text` — the fewest digits that read back as the same double.
-/

namespace PivotOracle

/-- The finite double `± significand * 2 ^ (exponent - 1074)`. -/
structure Binary64 where
  negative : Bool
  significand : Nat
  exponent : Nat
deriving DecidableEq, Repr

namespace Binary64

/-- The double as an integer number of units `2 ^ -1074`. -/
def scaled (x : Binary64) : Int := signed x.negative (x.significand * twoTo x.exponent)

/-- The bits of the interchange format, as a number. -/
def bits (x : Binary64) : Nat :=
  (if x.negative then twoTo 63 else 0) +
    if x.significand < twoTo 52 then x.significand
    else (x.exponent + 1) * twoTo 52 + (x.significand - twoTo 52)

/-- The greatest exponent of a finite double. -/
def maxExponent : Nat := 2045

/-- The greatest finite double, which is an integer. -/
def maxValue : Nat := (twoTo 53 - 1) * twoTo 971

/-- The double nearest to `± num / den`; a tie goes to the even significand. There is none where the
nearest value would lie beyond the greatest double. -/
def ofQuotient (negative : Bool) (num den : Nat) : Option Binary64 :=
  let scaled := num * twoTo 1074
  let exponent := (scaled / den).log2 + 1 - 53
  let significand := roundHalfEven scaled (den * twoTo exponent)
  let x : Binary64 :=
    if significand = twoTo 53 then ⟨negative, twoTo 52, exponent + 1⟩
    else ⟨negative, significand, exponent⟩
  if x.exponent ≤ maxExponent then some x else none

/-- The double nearest to an integer. -/
def ofInt? (n : Int) : Option Binary64 := ofQuotient (n < 0) n.natAbs 1

/-- Zero with a sign. -/
def zero (negative : Bool) : Binary64 := ⟨negative, 0, 0⟩

/-- The double nearest to a decimal. Numbers far below the least double and far above the greatest
are recognised by their exponents. -/
def ofDecimal? (d : Decimal) : Option Binary64 :=
  if d.coefficient = 0 ∨ d.adjusted < -400 then some (zero d.negative)
  else if 400 < d.adjusted then none
  else ofQuotient d.negative (d.coefficient * tenTo d.exponent.toNat) (tenTo (-d.exponent).toNat)

/-- Whether the double is an integer. -/
def isIntegral (x : Binary64) : Bool := x.scaled % twoTo 1074 = 0

/-- The integer that an integral double is. -/
def toInt (x : Binary64) : Int := x.scaled / twoTo 1074

/-! ### Shortest digits -/

/-- The decimal `c * 10 ^ power` nearest to a positive double among the two multiples of
`10 ^ power` beside it, if one of them reads back as the double. Lengths are measured in quarters of
the last place, of which the significand has four times its value; the double's interval reaches two
of them up, and two down, or one where the doubles below lie closer. -/
def nearestMultiple? (x : Binary64) (power : Int) : Option Nat :=
  let below := if x.significand = twoTo 52 ∧ x.exponent ≠ 0 then 1 else 2
  let value := 4 * x.significand
  /- `c * 10 ^ power` is `c * grid / unit` quarters. -/
  let unit := twoTo (x.exponent - 1076) * tenTo (-power).toNat
  let grid := twoTo (1076 - x.exponent) * tenTo power.toNat
  let inside (c : Nat) : Bool :=
    let low := (value - below) * unit
    let high := (value + 2) * unit
    if x.significand % 2 = 0 then low ≤ c * grid && c * grid ≤ high
    else low < c * grid && c * grid < high
  let c := value * unit / grid
  match inside c, inside (c + 1) with
  | false, false => none
  | true, false => some c
  | false, true => some (c + 1)
  | true, true =>
    if 2 * (value * unit) < (2 * c + 1) * grid then some c
    else if (2 * c + 1) * grid < 2 * (value * unit) then some (c + 1)
    else some (c + c % 2)

/-- The exponent of the first decimal digit of a positive double. -/
def leadingPower (x : Binary64) : Int :=
  let num := x.significand * twoTo (x.exponent - 1074)
  let den := twoTo (1074 - x.exponent)
  if den ≤ num then digitCount (num / den) - 1
  else -(digitCount ((den - 1) / num) : Int)

/-- The fewest digits, and of those the nearest, that read back as a positive double, looked for with
one digit more at each step. -/
def shortestFrom (x : Binary64) : Nat → Int → Nat × Int
  | 0, power => ((nearestMultiple? x power).getD 0, power)
  | steps + 1, power =>
    match nearestMultiple? x power with
    | some c => (c, power)
    | none => shortestFrom x steps (power - 1)

/-- The shortest digits of a positive double with their power of ten: seventeen always suffice. -/
def shortest (x : Binary64) : Nat × Int := shortestFrom x 16 x.leadingPower

/-- A finite double in print: positional from `0.0001` up to sixteen digits before the point, with
an exponent of at least two digits otherwise. A point is always there in positional form. -/
def text (x : Binary64) : Text :=
  let sign : Text := if x.negative then "-" else ""
  if x.significand = 0 then sign ++ "0.0"
  else
    let (c, power) := x.shortest
    let digits := (Text.ofNat c).trimEnd (.char '0')
    /- How many digits stand before the point when there is no exponent. -/
    let whole : Int := power + digitCount c
    sign ++
      if -4 < whole ∧ whole ≤ 16 then
        if whole ≤ 0 then "0." ++ Text.zeros (-whole) ++ digits
        else if digits.length ≤ whole then digits ++ Text.zeros (whole - digits.length) ++ ".0"
        else digits.take whole.toNat ++ "." ++ digits.drop whole.toNat
      else
        let mantissa := if digits.length = 1 then digits else digits.take 1 ++ "." ++ digits.drop 1
        let magnitude := (whole - 1).natAbs
        mantissa ++ (if whole - 1 < 0 then "e-" else "e+")
          ++ (if magnitude < 10 then "0" else "") ++ Text.ofNat magnitude

end Binary64

/-- A double: a finite number, an infinity, or not a number. -/
inductive Double where
  | finite (x : Binary64)
  | infinite (negative : Bool)
  | notANumber
deriving DecidableEq, Repr

namespace Double

/-- The double nearest to a decimal; an infinity beyond the greatest one. -/
def ofDecimal (d : Decimal) : Double :=
  match Binary64.ofDecimal? d with
  | some x => .finite x
  | none => .infinite d.negative

/-- Reads the printed form of a double. -/
def ofText? (t : Text) : Option Double :=
  match DecimalValue.ofText? t with
  | some (.finite d) => some (ofDecimal d)
  | some (.infinite negative) => some (.infinite negative)
  | some (.notANumber _ false []) => some .notANumber
  | _ => none

/-- A double in print. -/
def text : Double → Text
  | .finite x => x.text
  | .infinite negative => if negative then "-inf" else "inf"
  | .notANumber => "nan"

end Double

end PivotOracle
