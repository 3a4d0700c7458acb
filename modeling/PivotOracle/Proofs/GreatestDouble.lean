import Mathlib.Tactic.NormNum
import Mathlib.Tactic.Ring
import PivotOracle.Predict.Reading
import PivotOracle.Proofs.NearestDouble

/-!
# The greatest double

A number that starts a text is compared with the greatest double after it is rounded to 28 digits. What passes this
check is below the point from which numbers are rounded beyond the greatest double, although the check may round it
down: so no number that passes is without a double, and the check is all that a reading depends on, beside the limits
of exact decimals.

* `Decimal.magnitude`, `Decimal.exceeds_eq_true_iff` — the check compares magnitudes.
* `roundHalfEven_loss`, `Decimal.magnitude_le_rounded` — how much of a magnitude is lost where it is rounded.
* `Binary64.exists_ofQuotient_of_lt`, `Binary64.exists_ofDecimal?` — what is below that point has a double.
* `doubleOf_eq_ok_iff` — the numbers that are read.
-/

namespace PivotOracle

/-! ### Magnitudes of decimals -/

theorem cast_tenTo (n : Nat) : (tenTo n : ℚ) = 10 ^ n := Nat.cast_pow 10 n

/-- A number is below the power of ten with as many zeros as the number has digits. -/
theorem lt_tenTo_digitCount (n : Nat) : n < tenTo (digitCount n) :=
  (Nat.length_toDigits_le_iff (by decide) Nat.length_toDigits_pos).mp (Nat.le_refl _)

/-- It is not below the power of ten with one zero less, unless it is zero. -/
theorem tenTo_le_of_digitCount {n k : Nat} (pos : 0 < n) (digits : k < digitCount n) : tenTo k ≤ n := by
  cases k with
  | zero => exact pos
  | succ k =>
      refine Nat.le_of_not_lt fun below => ?_
      exact Nat.not_le.mpr digits ((Nat.length_toDigits_le_iff (by decide) k.succ_pos).mpr below)

theorem cast_tenTo_pos (n : Nat) : (0 : ℚ) < tenTo n := Nat.cast_pos.mpr (Nat.pow_pos (by decide))

theorem zpow_ten_pos (e : Int) : (0 : ℚ) < 10 ^ e := zpow_pos (by norm_num) e

theorem zpow_mul_tenTo (e : Int) : (10 : ℚ) ^ e * tenTo (-e).toNat = tenTo e.toNat := by
  rw [cast_tenTo, cast_tenTo, ← zpow_natCast, ← zpow_natCast, ← zpow_add₀ (by norm_num)]
  congr 1
  omega

namespace Decimal

variable {d : Decimal} {n : Nat}

/-- The number that a decimal is, without its sign. -/
def magnitude (d : Decimal) : ℚ := d.coefficient * 10 ^ d.exponent

/-- A magnitude is a quotient of integers, as which it is turned into a double. -/
theorem magnitude_eq_div (d : Decimal) :
    d.magnitude = ((d.coefficient * tenTo d.exponent.toNat : Nat) : ℚ) / tenTo (-d.exponent).toNat := by
  rw [eq_div_iff (cast_tenTo_pos _).ne', magnitude, mul_assoc, zpow_mul_tenTo, Nat.cast_mul]

theorem magnitude_eq_zero (zero : d.coefficient = 0) : d.magnitude = 0 := by
  rw [magnitude, zero, Nat.cast_zero, zero_mul]

theorem magnitude_pos (nonzero : d.coefficient ≠ 0) : 0 < d.magnitude :=
  mul_pos (Nat.cast_pos.mpr (Nat.pos_of_ne_zero nonzero)) (zpow_ten_pos _)

theorem magnitude_nonneg (d : Decimal) : 0 ≤ d.magnitude := mul_nonneg (Nat.cast_nonneg _) (zpow_ten_pos _).le

theorem magnitude_lt_iff :
    d.magnitude < n ↔ d.coefficient * tenTo d.exponent.toNat < n * tenTo (-d.exponent).toNat := by
  rw [magnitude_eq_div, div_lt_iff₀ (cast_tenTo_pos _), ← Nat.cast_mul, Nat.cast_lt]

theorem lt_magnitude_iff :
    n < d.magnitude ↔ n * tenTo (-d.exponent).toNat < d.coefficient * tenTo d.exponent.toNat := by
  rw [magnitude_eq_div, lt_div_iff₀ (cast_tenTo_pos _), ← Nat.cast_mul, Nat.cast_lt]

theorem magnitude_lt_zpow (d : Decimal) : d.magnitude < 10 ^ (d.adjusted + 1) := by
  have below : (d.coefficient : ℚ) < 10 ^ digitCount d.coefficient := by
    rw [← cast_tenTo]
    exact Nat.cast_lt.mpr (lt_tenTo_digitCount _)
  calc d.magnitude < 10 ^ digitCount d.coefficient * 10 ^ d.exponent :=
        mul_lt_mul_of_pos_right below (zpow_ten_pos _)
    _ = 10 ^ (d.adjusted + 1) := by
        rw [← zpow_natCast, ← zpow_add₀ (by norm_num), adjusted]
        congr 1
        omega

theorem zpow_le_magnitude (nonzero : d.coefficient ≠ 0) : 10 ^ d.adjusted ≤ d.magnitude := by
  have digits : 0 < digitCount d.coefficient := Nat.length_toDigits_pos
  have above : (10 : ℚ) ^ (digitCount d.coefficient - 1) ≤ d.coefficient := by
    rw [← cast_tenTo]
    exact Nat.cast_le.mpr (tenTo_le_of_digitCount (Nat.pos_of_ne_zero nonzero) (Nat.sub_one_lt_of_lt digits))
  calc (10 : ℚ) ^ d.adjusted = 10 ^ (digitCount d.coefficient - 1) * 10 ^ d.exponent := by
        rw [← zpow_natCast, ← zpow_add₀ (by norm_num), adjusted]
        congr 1
        omega
    _ ≤ d.magnitude := mul_le_mul_of_nonneg_right above (zpow_ten_pos _).le

/-- A decimal that is not zero and at most a power of ten has no greater exponent. -/
theorem adjusted_le {k : Nat} (nonzero : d.coefficient ≠ 0) (le : d.magnitude ≤ tenTo k) : d.adjusted ≤ k := by
  refine (zpow_le_zpow_iff_right₀ (a := (10 : ℚ)) (by norm_num)).mp ?_
  rw [zpow_natCast, ← cast_tenTo]
  exact (zpow_le_magnitude nonzero).trans le

/-- A decimal exceeds an integer where its magnitude is greater. -/
theorem exceeds_eq_true_iff (pos : 0 < n) : d.exceeds n = true ↔ n < d.magnitude := by
  have digits : 0 < digitCount n := Nat.length_toDigits_pos
  unfold exceeds
  split
  · rename_i zero
    simp [magnitude_eq_zero zero]
  · rename_i nonzero
    split
    · rename_i fewer
      have below : d.magnitude ≤ n := by
        calc d.magnitude ≤ 10 ^ (d.adjusted + 1) := d.magnitude_lt_zpow.le
          _ ≤ 10 ^ ((digitCount n - 1 : Nat) : Int) := zpow_le_zpow_right₀ (by norm_num) (by omega)
          _ = tenTo (digitCount n - 1) := by rw [zpow_natCast, cast_tenTo]
          _ ≤ n := Nat.cast_le.mpr (tenTo_le_of_digitCount pos (Nat.sub_one_lt_of_lt digits))
      simpa using below
    · split
      · rename_i more
        have above : (n : ℚ) < d.magnitude := by
          calc (n : ℚ) < tenTo (digitCount n) := Nat.cast_lt.mpr (lt_tenTo_digitCount n)
            _ = 10 ^ (digitCount n : Int) := by rw [zpow_natCast, cast_tenTo]
            _ ≤ 10 ^ d.adjusted := zpow_le_zpow_right₀ (by norm_num) (by omega)
            _ ≤ d.magnitude := zpow_le_magnitude nonzero
        simpa using above
      · rw [lt_magnitude_iff, decide_eq_true_iff]

end Decimal

/-! ### Rounding -/

section Rounding

variable {num den bound : Nat}

/-- A quotient is at most a half above or below the integer that it is rounded to. -/
theorem roundHalfEven_half (num : Nat) (pos : 0 < den) :
    2 * num ≤ 2 * (roundHalfEven num den * den) + den ∧ 2 * (roundHalfEven num den * den) ≤ 2 * num + den := by
  have parts : num / den * den + num % den = num := Nat.div_add_mod' num den
  have small : num % den < den := Nat.mod_lt num pos
  rcases roundHalfEven_cases num den with ⟨down, half⟩ | ⟨up, half⟩
  · rw [down]
    omega
  · rw [up, Nat.succ_mul (num / den)]
    omega

/-- A quotient that is at least an integer is rounded to no less. -/
theorem le_roundHalfEven (pos : 0 < den) (reached : bound * den ≤ num) : bound ≤ roundHalfEven num den := by
  have whole : bound ≤ num / den := (Nat.le_div_iff_mul_le pos).mpr reached
  rcases roundHalfEven_cases num den with ⟨down, -⟩ | ⟨up, -⟩
  · exact down ▸ whole
  · exact up ▸ Nat.le_succ_of_le whole

/-- A quotient below an integer and a half is rounded to no more than this integer. -/
theorem roundHalfEven_le_of_lt (pos : 0 < den) (below : 2 * num < (2 * bound + 1) * den) :
    roundHalfEven num den ≤ bound := by
  refine Nat.le_of_not_lt fun beyond => Nat.not_lt.mpr (roundHalfEven_half num pos).2 ?_
  calc 2 * num + den < (2 * bound + 1) * den + den := Nat.add_lt_add_right below den
    _ = 2 * ((bound + 1) * den) := by ring
    _ ≤ 2 * (roundHalfEven num den * den) := Nat.mul_le_mul_left 2 (Nat.mul_le_mul_right den beyond)

/-- Where a quotient is at least `bound`, it is greater than its rounding by at most one of `2 * bound` parts. -/
theorem roundHalfEven_loss (pos : 0 < den) (reached : bound * den ≤ num) :
    num * (2 * bound) ≤ roundHalfEven num den * den * (2 * bound + 1) := by
  have bounded : bound ≤ roundHalfEven num den := le_roundHalfEven pos reached
  calc num * (2 * bound) = 2 * num * bound := by ring
    _ ≤ (2 * (roundHalfEven num den * den) + den) * bound :=
        Nat.mul_le_mul_right bound (roundHalfEven_half num pos).1
    _ = roundHalfEven num den * den * (2 * bound) + bound * den := by ring
    _ ≤ roundHalfEven num den * den * (2 * bound) + roundHalfEven num den * den :=
        Nat.add_le_add_left (Nat.mul_le_mul_right den bounded) _
    _ = roundHalfEven num den * den * (2 * bound + 1) := by ring

end Rounding

namespace Decimal

variable {d : Decimal} {digits : Nat}

/-- The magnitude of a rounded decimal, whether or not it has got one digit more. -/
theorem magnitude_rounded (positive : 0 < digits) (d : Decimal) :
    (d.rounded digits).magnitude =
      (roundHalfEven d.coefficient (tenTo (digitCount d.coefficient - digits)) : Nat) *
        tenTo (digitCount d.coefficient - digits) * 10 ^ d.exponent := by
  have scaled (k : Nat) : (10 : ℚ) ^ (d.exponent + k) = tenTo k * 10 ^ d.exponent := by
    rw [zpow_add₀ (by norm_num), zpow_natCast, cast_tenTo, mul_comm]
  simp only [rounded, magnitude]
  split
  · rename_i carried
    have power : tenTo digits = tenTo (digits - 1) * 10 := by
      rw [← tenTo_succ, Nat.sub_add_cancel positive]
    rw [carried, power, zpow_add₀ (by norm_num), zpow_one, scaled]
    push_cast
    ring
  · rw [scaled, mul_assoc]

/-- How much a magnitude loses where it is rounded. -/
theorem magnitude_le_rounded (positive : 0 < digits) (d : Decimal) :
    d.magnitude * (2 * tenTo (digits - 1)) ≤ (d.rounded digits).magnitude * (2 * tenTo (digits - 1) + 1) := by
  rcases Nat.lt_or_ge digits (digitCount d.coefficient) with long | short
  · have reached : tenTo (digits - 1) * tenTo (digitCount d.coefficient - digits) ≤ d.coefficient := by
      have nonzero : 0 < d.coefficient := Nat.pos_of_ne_zero fun zero => by
        rw [zero] at long
        exact absurd long (Nat.not_lt.mpr positive)
      calc tenTo (digits - 1) * tenTo (digitCount d.coefficient - digits)
          = tenTo (digits - 1 + (digitCount d.coefficient - digits)) := (Nat.pow_add 10 _ _).symm
        _ ≤ d.coefficient := tenTo_le_of_digitCount nonzero (by omega)
    have loss : (d.coefficient * (2 * tenTo (digits - 1)) : ℚ) ≤
        roundHalfEven d.coefficient (tenTo (digitCount d.coefficient - digits)) *
          tenTo (digitCount d.coefficient - digits) * (2 * tenTo (digits - 1) + 1) := by
      exact_mod_cast roundHalfEven_loss (Nat.pow_pos (by decide)) reached
    calc d.magnitude * (2 * tenTo (digits - 1))
        = d.coefficient * (2 * tenTo (digits - 1)) * 10 ^ d.exponent := by
          rw [magnitude]
          ring
      _ ≤ _ := mul_le_mul_of_nonneg_right loss (zpow_ten_pos _).le
      _ = (d.rounded digits).magnitude * (2 * tenTo (digits - 1) + 1) := by
          rw [magnitude_rounded positive]
          ring
  · rw [rounded_eq_self positive short, mul_add, mul_one]
    exact le_add_of_nonneg_right d.magnitude_nonneg

theorem coefficient_rounded_ne_zero (positive : 0 < digits) (nonzero : d.coefficient ≠ 0) :
    (d.rounded digits).coefficient ≠ 0 := by
  intro zero
  have loss := d.magnitude_le_rounded positive
  rw [magnitude_eq_zero zero, zero_mul] at loss
  exact not_lt.mpr loss (mul_pos (magnitude_pos nonzero) (mul_pos two_pos (cast_tenTo_pos _)))

end Decimal

/-! ### The check -/

theorem log2_lt_of_lt {n k : Nat} (pos : 0 < k) (lt : n < twoTo k) : n.log2 < k := by
  by_cases zero : n = 0
  · rw [zero, Nat.log2_zero]
    exact pos
  · exact (Nat.log2_lt zero).mpr lt

namespace Binary64

/-- The integer halfway between the greatest double and the power of two that follows it. -/
def overflowPoint : Nat := (twoTo 54 - 1) * twoTo 970

/-- A quotient below that point has a double. -/
theorem exists_ofQuotient_of_lt (negative : Bool) {num den : Nat} (pos : 0 < den)
    (below : num < overflowPoint * den) : ∃ x, ofQuotient negative num den = some x := by
  have units : num * unit < (twoTo 54 - 1) * twoTo 2044 * den := by
    have point : overflowPoint * unit = (twoTo 54 - 1) * twoTo 2044 := by decide +kernel
    rw [← point, Nat.mul_right_comm]
    exact Nat.mul_lt_mul_of_pos_right below unit_pos
  have exponent : quotientExponent num den ≤ maxExponent := by
    have powers : (twoTo 54 - 1) * twoTo 2044 < twoTo 2098 := by decide +kernel
    have quotient : num * unit / den < twoTo 2098 := Nat.lt_trans ((Nat.div_lt_iff_lt_mul pos).mpr units) powers
    have bits : (num * unit / den).log2 < 2098 := log2_lt_of_lt (by decide) quotient
    unfold quotientExponent maxExponent
    omega
  rcases Nat.lt_or_eq_of_le exponent with lower | greatest
  · exact exists_ofQuotient negative lower
  · -- The significand stays below the bit after its 53 bits.
    have significand : roundHalfEven (num * unit) (den * twoTo maxExponent) ≤ twoTo 53 - 1 := by
      have doubled : (2 * (twoTo 53 - 1) + 1) * twoTo maxExponent = 2 * ((twoTo 54 - 1) * twoTo 2044) := by
        decide +kernel
      refine roundHalfEven_le_of_lt (Nat.mul_pos pos (twoTo_pos _)) ?_
      calc 2 * (num * unit) < 2 * ((twoTo 54 - 1) * twoTo 2044 * den) := Nat.mul_lt_mul_of_pos_left units Nat.two_pos
        _ = (2 * (twoTo 53 - 1) + 1) * (den * twoTo maxExponent) := by
          rw [Nat.mul_comm den, ← Nat.mul_assoc _ _ den, ← Nat.mul_assoc _ _ den, doubled]
    have noCarry : roundHalfEven (num * unit) (den * twoTo (quotientExponent num den)) ≠ twoTo 53 := by
      rw [greatest]
      exact Nat.ne_of_lt (Nat.lt_of_le_of_lt significand (Nat.sub_one_lt (twoTo_pos 53).ne'))
    refine ⟨_, if_pos ?_⟩
    split
    · rename_i carry
      exact absurd carry noCarry
    · exact exponent

/-- A decimal that does not exceed the greatest double where it is rounded is below that point. -/
theorem magnitude_lt_overflowPoint {d : Decimal} (within : (d.rounded comparedDigits).magnitude ≤ maxValue) :
    d.magnitude < overflowPoint := by
  have room : maxValue * (2 * tenTo (comparedDigits - 1) + 1) < overflowPoint * (2 * tenTo (comparedDigits - 1)) := by
    decide +kernel
  have pos : (0 : ℚ) < 2 * tenTo (comparedDigits - 1) := mul_pos two_pos (cast_tenTo_pos _)
  refine lt_of_mul_lt_mul_right ?_ pos.le
  calc d.magnitude * (2 * tenTo (comparedDigits - 1))
      ≤ (d.rounded comparedDigits).magnitude * (2 * tenTo (comparedDigits - 1) + 1) :=
        d.magnitude_le_rounded (by decide)
    _ ≤ maxValue * (2 * tenTo (comparedDigits - 1) + 1) :=
        mul_le_mul_of_nonneg_right within (add_pos pos one_pos).le
    _ < overflowPoint * (2 * tenTo (comparedDigits - 1)) := by exact_mod_cast room

/-- A decimal that does not exceed the greatest double where it is rounded has a double. -/
theorem exists_ofDecimal? {d : Decimal} (within : (d.rounded comparedDigits).magnitude ≤ maxValue) :
    ∃ x, ofDecimal? d = some x := by
  have below := magnitude_lt_overflowPoint within
  unfold ofDecimal?
  split
  · exact ⟨_, rfl⟩
  · rename_i notTiny
    have nonzero : d.coefficient ≠ 0 := fun zero => notTiny (.inl zero)
    have point : (overflowPoint : ℚ) ≤ tenTo 400 := Nat.cast_le.mpr (by decide +kernel)
    have notHuge : ¬ 400 < d.adjusted := Int.not_lt.mpr (Decimal.adjusted_le nonzero (below.le.trans point))
    rw [if_neg notHuge]
    exact exists_ofQuotient_of_lt _ (Nat.pow_pos (by decide)) (Decimal.magnitude_lt_iff.mp below)

end Binary64

/-- The numbers that start a text and are read: within the limits of exact decimals, those that do not exceed the
greatest double where they are rounded to the digits that are compared. -/
theorem doubleOf_eq_ok_iff (t : Text) (d : Decimal) :
    (∃ x, doubleOf t d = .ok x) ↔
      d.isExact = true ∧ (d.rounded comparedDigits).magnitude ≤ Binary64.maxValue := by
  have check : (d.rounded comparedDigits).exceeds Binary64.maxValue = true ↔
      Binary64.maxValue < (d.rounded comparedDigits).magnitude := Decimal.exceeds_eq_true_iff (by decide +kernel)
  constructor
  · rintro ⟨x, read⟩
    unfold doubleOf at read
    simp only at read
    split at read
    · cases read
    · rename_i isExact
      split at read
      · cases read
      · split at read
        · cases read
        · rename_i notExceeds
          exact ⟨by simpa using isExact, not_lt.mp fun beyond => notExceeds (check.mpr beyond)⟩
  · rintro ⟨isExact, within⟩
    obtain ⟨x, double⟩ := Binary64.exists_ofDecimal? within
    have notExceeds : (d.rounded comparedDigits).exceeds Binary64.maxValue = false :=
      Bool.eq_false_iff.mpr fun beyond => not_lt.mpr within (check.mp beyond)
    have notHuge : ¬ (d.coefficient ≠ 0 ∧ maxRoundedExponent < (d.rounded comparedDigits).adjusted) := by
      rintro ⟨nonzero, huge⟩
      have greatest : (Binary64.maxValue : ℚ) ≤ tenTo 309 := Nat.cast_le.mpr (by decide +kernel)
      have small := Decimal.adjusted_le (Decimal.coefficient_rounded_ne_zero (by decide) nonzero)
        (within.trans greatest)
      exact absurd (Int.lt_of_lt_of_le huge small) (by decide)
    refine ⟨x, ?_⟩
    simp only [doubleOf, isExact, notExceeds, if_neg notHuge, double]
    rfl

end PivotOracle
