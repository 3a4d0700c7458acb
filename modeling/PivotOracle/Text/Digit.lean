import PivotOracle.Text

/-!
# Decimal digits

A digit class says which characters are digits and what they are worth. The readings of text are
written over an arbitrary class; `asciiDigit` has `0` to `9` alone, `decimalDigit` every decimal
digit of Unicode 14.0.
-/

namespace PivotOracle

/-- Which characters are digits, and their values. -/
abbrev DigitClass := Char → Option Nat

/-- The digits `0` to `9`. -/
def asciiDigit : DigitClass := fun c =>
  if '0' ≤ c ∧ c ≤ '9' then some (c.toNat - 48) else none

/-- The code points of the digits with value zero (general category Nd); the other nine of each
script follow it. -/
def zeroDigits : List Nat :=
  [0x30, 0x660, 0x6f0, 0x7c0, 0x966, 0x9e6, 0xa66, 0xae6, 0xb66, 0xbe6, 0xc66, 0xce6, 0xd66,
   0xde6, 0xe50, 0xed0, 0xf20, 0x1040, 0x1090, 0x17e0, 0x1810, 0x1946, 0x19d0, 0x1a80, 0x1a90,
   0x1b50, 0x1bb0, 0x1c40, 0x1c50, 0xa620, 0xa8d0, 0xa900, 0xa9d0, 0xa9f0, 0xaa50, 0xabf0,
   0xff10, 0x104a0, 0x10d30, 0x11066, 0x110f0, 0x11136, 0x111d0, 0x112f0, 0x11450, 0x114d0,
   0x11650, 0x116c0, 0x11730, 0x118e0, 0x11950, 0x11c50, 0x11d50, 0x11da0, 0x16a60, 0x16ac0,
   0x16b50, 0x1d7ce, 0x1d7d8, 0x1d7e2, 0x1d7ec, 0x1d7f6, 0x1e140, 0x1e2f0, 0x1e950, 0x1fbf0]

/-- The decimal digits of every script. -/
def decimalDigit : DigitClass := fun c =>
  (zeroDigits.find? fun z => z ≤ c.toNat && c.toNat < z + 10).map (c.toNat - ·)

/-- The longest run of digits that starts a text, and what follows it. -/
def Text.takeDigits (digit : DigitClass) : Text → List Char × Text
  | .char c :: t =>
    if (digit c).isSome then
      let (digits, rest) := Text.takeDigits digit t
      (c :: digits, rest)
    else ([], .char c :: t)
  | t => ([], t)

/-- The number that a run of digits stands for. -/
def DigitClass.value (digit : DigitClass) (digits : List Char) : Nat :=
  digits.foldl (fun n c => 10 * n + (digit c).getD 0) 0

end PivotOracle
