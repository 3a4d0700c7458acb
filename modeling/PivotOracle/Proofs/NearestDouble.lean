import PivotOracle.Number.Binary64
import PivotOracle.Predict.Arithmetic
import PivotOracle.Proofs.Numeral

/-!
# The nearest double

How quotients are rounded to doubles, and which integers are left as they are. Magnitudes are counted in
units of `2 ^ -1074`, of which every finite double has an integer number.

* `roundHalfEven_nearest` — no integer is nearer to a quotient than the one that it is rounded to.
* `Binary64.ofQuotient_nearest` — no double is nearer to it than the one that it is rounded to.
* `Binary64.ofQuotient_mul_right` — the double is that of the quotient, whatever its terms are.
* `isDouble_iff` — the integers that are doubles are those of at most 53 bits, up to a power of two.
-/

namespace PivotOracle

/-! ### Rounding -/

theorem twoTo_pos (n : Nat) : 0 < twoTo n := Nat.two_pow_pos n

/-- How far apart two numbers are. -/
def gap (m n : Nat) : Nat := m - n + (n - m)

section Rounding

variable {num den : Nat}

/-- Rounding is a matter of the quotient alone. -/
theorem roundHalfEven_mul_right (num den : Nat) {c : Nat} (pos : 0 < c) :
    roundHalfEven (num * c) (den * c) = roundHalfEven num den := by
  have below : 2 * (num % den * c) < den * c ↔ 2 * (num % den) < den := by
    rw [← Nat.mul_assoc]
    exact Nat.mul_lt_mul_right pos
  have above : den * c < 2 * (num % den * c) ↔ den < 2 * (num % den) := by
    rw [← Nat.mul_assoc]
    exact Nat.mul_lt_mul_right pos
  simp only [roundHalfEven, Nat.mul_div_mul_right _ _ pos, Nat.mul_mod_mul_right, below, above]

/-- A quotient is rounded down by at most a half, or up by at most a half. -/
theorem roundHalfEven_cases (num den : Nat) :
    roundHalfEven num den = num / den ∧ 2 * (num % den) ≤ den ∨
      roundHalfEven num den = num / den + 1 ∧ den ≤ 2 * (num % den) := by
  simp only [roundHalfEven]
  split
  · exact .inl ⟨rfl, by omega⟩
  · split
    · exact .inr ⟨rfl, by omega⟩
    · rcases Nat.mod_two_eq_zero_or_one (num / den) with even | odd
      · exact .inl ⟨by omega, by omega⟩
      · exact .inr ⟨by omega, by omega⟩

/-- No integer is nearer to a quotient than the one that it is rounded to. -/
theorem roundHalfEven_nearest (num : Nat) (pos : 0 < den) (k : Nat) :
    gap num (roundHalfEven num den * den) ≤ gap num (k * den) := by
  have parts : num / den * den + num % den = num := Nat.div_add_mod' num den
  have small : num % den < den := Nat.mod_lt num pos
  have apart : k * den ≤ num / den * den ∨ num / den * den + den ≤ k * den := by
    rcases Nat.lt_or_ge (num / den) k with beyond | within
    · have := Nat.mul_le_mul_right den beyond
      rw [Nat.succ_mul] at this
      exact .inr this
    · exact .inl (Nat.mul_le_mul_right den within)
  unfold gap
  rcases roundHalfEven_cases num den with ⟨down, _⟩ | ⟨up, _⟩
  · rw [down]
    omega
  · rw [up, Nat.succ_mul]
    omega

/-- A quotient is its own rounding if and only if it is an integer. -/
theorem roundHalfEven_mul_eq_iff (pos : 0 < den) : roundHalfEven num den * den = num ↔ den ∣ num := by
  constructor
  · intro exact
    exact ⟨_, (Nat.mul_comm _ _).trans exact |>.symm⟩
  · rintro ⟨k, rfl⟩
    have zero := roundHalfEven_nearest (den * k) pos k
    unfold gap at zero
    rw [Nat.mul_comm k den] at zero
    omega

/-- Rounding does not pass an integer bound. -/
theorem roundHalfEven_le {bound : Nat} (pos : 0 < den) (le : num ≤ bound * den) :
    roundHalfEven num den ≤ bound := by
  have near := roundHalfEven_nearest num pos bound
  unfold gap at near
  refine Nat.le_of_not_lt fun beyond => ?_
  have next : (bound + 1) * den ≤ roundHalfEven num den * den := Nat.mul_le_mul_right den beyond
  rw [Nat.succ_mul] at next
  omega

end Rounding

/-! ### Doubles -/

namespace Binary64

/-- The units `2 ^ -1074` in one. -/
def unit : Nat := twoTo 1074

theorem unit_pos : 0 < unit := twoTo_pos 1074

theorem twoTo_mul_unit (n : Nat) : twoTo n * unit = twoTo (n + 1074) := by
  have power (k : Nat) : twoTo n * twoTo k = twoTo (n + k) := (Nat.pow_add 2 n k).symm
  exact power 1074

/-- The exponent with which the significand of a quotient has 53 bits, or zero. -/
def quotientExponent (num den : Nat) : Nat := (num * unit / den).log2 + 1 - 53

/-- The units of the double that a quotient is rounded to. -/
def quotientUnits (num den : Nat) : Nat :=
  roundHalfEven (num * unit) (den * twoTo (quotientExponent num den)) * twoTo (quotientExponent num den)

/-- A quotient is below the power of two after its 53 bits. -/
theorem lt_quotientExponent (num : Nat) {den : Nat} (pos : 0 < den) :
    num * unit < twoTo (53 + quotientExponent num den) * den := by
  have bits : num * unit / den < twoTo ((num * unit / den).log2 + 1) := Nat.lt_log2_self
  have exponents : (num * unit / den).log2 + 1 ≤ 53 + quotientExponent num den := by
    unfold quotientExponent
    omega
  have powers : twoTo ((num * unit / den).log2 + 1) ≤ twoTo (53 + quotientExponent num den) :=
    Nat.pow_le_pow_right Nat.two_pos exponents
  exact (Nat.div_lt_iff_lt_mul pos).mp (Nat.lt_of_lt_of_le bits powers)

/-- It needs all of the 53 bits, unless its units are the least. -/
theorem quotientExponent_le {num den : Nat} (pos : 0 < den) (notLeast : quotientExponent num den ≠ 0) :
    twoTo (52 + quotientExponent num den) * den ≤ num * unit := by
  have exponents : 52 + quotientExponent num den = (num * unit / den).log2 := by
    unfold quotientExponent at notLeast ⊢
    omega
  have nonzero : num * unit / den ≠ 0 := by
    intro zero
    rw [zero, Nat.log2_zero] at exponents
    omega
  rw [exponents]
  exact (Nat.le_div_iff_mul_le pos).mp (Nat.log2_self_le nonzero)

/-- A significand that has reached a 54th bit is half as great with the next exponent. -/
theorem carry (negative : Bool) {s : Nat} (e : Nat) (le : s ≤ twoTo 53) {x : Binary64}
    (carried : x = if s = twoTo 53 then ⟨negative, twoTo 52, e + 1⟩ else ⟨negative, s, e⟩) :
    x.scaled = signed negative (s * twoTo e) ∧ x.significand < twoTo 53 := by
  split at carried
  · rename_i reached
    have half : twoTo 52 * twoTo (e + 1) = twoTo 53 * twoTo e :=
      calc twoTo 52 * twoTo (e + 1) = twoTo (52 + (e + 1)) := (Nat.pow_add 2 _ _).symm
        _ = twoTo (53 + e) := congrArg twoTo (by omega)
        _ = twoTo 53 * twoTo e := Nat.pow_add 2 _ _
    rw [carried, reached, ← half]
    exact ⟨rfl, Nat.pow_lt_pow_right Nat.one_lt_two (by decide)⟩
  · rename_i notReached
    rw [carried]
    exact ⟨rfl, Nat.lt_of_le_of_ne le notReached⟩

/-- The double of a quotient has the units that the quotient is rounded to, and a significand of 53 bits. -/
theorem ofQuotient_eq {negative : Bool} {num den : Nat} {x : Binary64} (pos : 0 < den)
    (rounded : ofQuotient negative num den = some x) :
    x.scaled = signed negative (quotientUnits num den) ∧ x.significand < twoTo 53 := by
  have bound : roundHalfEven (num * unit) (den * twoTo (quotientExponent num den)) ≤ twoTo 53 := by
    refine roundHalfEven_le (Nat.mul_pos pos (twoTo_pos _)) (Nat.le_of_lt ?_)
    calc num * unit < twoTo (53 + quotientExponent num den) * den := lt_quotientExponent num pos
      _ = twoTo 53 * twoTo (quotientExponent num den) * den := congrArg (· * den) (Nat.pow_add 2 _ _)
      _ = twoTo 53 * (den * twoTo (quotientExponent num den)) := by rw [Nat.mul_assoc, Nat.mul_comm den]
  unfold ofQuotient at rounded
  simp only [Option.ite_none_right_eq_some, Option.some.injEq] at rounded
  exact carry negative _ bound rounded.2.symm

/-- No double is nearer to a quotient than the one that it is rounded to. -/
theorem ofQuotient_nearest {negative : Bool} {num den : Nat} {x : Binary64} (pos : 0 < den)
    (rounded : ofQuotient negative num den = some x) (y : Binary64) (valid : y.significand < twoTo 53) :
    gap (num * unit) (x.scaled.natAbs * den) ≤ gap (num * unit) (y.scaled.natAbs * den) := by
  have distances (k : Nat) : gap (num * unit) (x.scaled.natAbs * den) ≤
      gap (num * unit) (k * twoTo (quotientExponent num den) * den) := by
    rw [(ofQuotient_eq pos rounded).1, natAbs_signed]
    unfold quotientUnits
    rw [Nat.mul_assoc, Nat.mul_assoc, Nat.mul_comm _ den]
    exact roundHalfEven_nearest _ (Nat.mul_pos pos (twoTo_pos _)) k
  have units : y.scaled.natAbs = y.significand * twoTo y.exponent := natAbs_signed _ _
  rcases Nat.lt_or_ge y.exponent (quotientExponent num den) with finer | coarser
  · -- The double is below the power of two at which the 53 bits of the quotient start.
    have power : twoTo (52 + quotientExponent num den) = twoTo 52 * twoTo (quotientExponent num den) :=
      Nat.pow_add 2 _ _
    have start : y.scaled.natAbs * den ≤ twoTo 52 * twoTo (quotientExponent num den) * den := by
      refine Nat.mul_le_mul_right den ?_
      calc y.scaled.natAbs ≤ twoTo 53 * twoTo y.exponent := by
            rw [units]
            exact Nat.mul_le_mul_right _ (Nat.le_of_lt valid)
        _ = twoTo (53 + y.exponent) := (Nat.pow_add 2 _ _).symm
        _ ≤ twoTo (52 + quotientExponent num den) := Nat.pow_le_pow_right Nat.two_pos (by omega)
        _ = twoTo 52 * twoTo (quotientExponent num den) := power
    have reached := quotientExponent_le pos (Nat.ne_of_gt (Nat.zero_lt_of_lt finer))
    rw [power] at reached
    refine Nat.le_trans (distances (twoTo 52)) ?_
    unfold gap
    omega
  · have power : twoTo (y.exponent - quotientExponent num den) * twoTo (quotientExponent num den) =
        twoTo y.exponent := Nat.pow_sub_mul_pow 2 coarser
    have multiple : y.scaled.natAbs = y.significand * twoTo (y.exponent - quotientExponent num den) *
        twoTo (quotientExponent num den) := by
      rw [units, Nat.mul_assoc, power]
    rw [multiple]
    exact distances _

/-- The double of a quotient is a matter of the quotient alone. -/
theorem ofQuotient_mul_right (negative : Bool) (num den : Nat) {c : Nat} (pos : 0 < c) :
    ofQuotient negative (num * c) (den * c) = ofQuotient negative num den := by
  have swap (a b : Nat) : a * c * b = a * b * c := Nat.mul_right_comm a c b
  unfold ofQuotient
  simp only [swap, Nat.mul_div_mul_right _ _ pos, roundHalfEven_mul_right _ _ pos]

/-- Quotients with a small exponent have a double. -/
theorem exists_ofQuotient (negative : Bool) {num den : Nat}
    (small : quotientExponent num den < maxExponent) : ∃ x, ofQuotient negative num den = some x := by
  refine ⟨_, if_pos ?_⟩
  split
  · exact small
  · exact Nat.le_of_lt small

end Binary64

/-! ### Integers that are doubles -/

/-- The double is the integer `n`. -/
def Binary64.Is (x : Binary64) (n : Int) : Prop := x.scaled = n * Binary64.unit

/-- The integer is a double: the one that is nearest to it. -/
def IsDouble (n : Int) : Prop := ∃ x ∈ Binary64.ofInt? n, x.Is n

instance (x : Binary64) (n : Int) : Decidable (x.Is n) := inferInstanceAs (Decidable (_ = _))

instance (n : Int) : Decidable (IsDouble n) := inferInstanceAs (Decidable (∃ x ∈ Binary64.ofInt? n, x.Is n))

namespace Binary64

/-- Where a double is an integer, this needs at most 53 bits, up to a power of two. -/
theorem Is.bits {x : Binary64} {n : Int} (h : x.Is n) (valid : x.significand < twoTo 53) :
    ∃ s e, s < twoTo 53 ∧ n.natAbs = s * twoTo e := by
  have units : x.significand * twoTo x.exponent = n.natAbs * unit := by
    have same : x.scaled.natAbs = (n * unit).natAbs := congrArg Int.natAbs h
    rwa [scaled, natAbs_signed, Int.natAbs_mul, Int.natAbs_natCast] at same
  rcases Nat.lt_or_ge x.exponent 1074 with fraction | whole
  · -- The significand is a multiple of the integer, which is so even smaller.
    have power (k : Nat) (le : x.exponent ≤ k) : twoTo (k - x.exponent) * twoTo x.exponent = twoTo k :=
      Nat.pow_sub_mul_pow 2 le
    have split : twoTo (1074 - x.exponent) * twoTo x.exponent = unit := power 1074 (Nat.le_of_lt fraction)
    rw [← split, ← Nat.mul_assoc] at units
    have significand := Nat.eq_of_mul_eq_mul_right (twoTo_pos _) units
    refine ⟨n.natAbs, 0, ?_, (Nat.mul_one _).symm⟩
    calc n.natAbs ≤ n.natAbs * twoTo (1074 - x.exponent) := Nat.le_mul_of_pos_right _ (twoTo_pos _)
      _ = x.significand := significand.symm
      _ < twoTo 53 := valid
  · have split : twoTo (x.exponent - 1074) * unit = twoTo x.exponent := by
      rw [twoTo_mul_unit, Nat.sub_add_cancel whole]
    rw [← split, ← Nat.mul_assoc] at units
    exact ⟨_, _, valid, (Nat.eq_of_mul_eq_mul_right unit_pos units).symm⟩

/-- The exponent of an integer of few bits is small. -/
theorem quotientExponent_one_le {n k : Nat} (lt : n < twoTo (53 + k)) :
    quotientExponent n 1 ≤ k + 1074 := by
  unfold quotientExponent
  rw [Nat.div_one]
  by_cases zero : n * unit = 0
  · rw [zero, Nat.log2_zero]
    omega
  · have bits : (n * unit).log2 < 53 + k + 1074 := by
      refine (Nat.log2_lt zero).mpr ?_
      calc n * unit < twoTo (53 + k) * unit := Nat.mul_lt_mul_of_pos_right lt unit_pos
        _ = twoTo (53 + k + 1074) := twoTo_mul_unit _
    omega

/-- Every signed 64-bit integer has a nearest double. -/
theorem exists_ofInt? {n : Int} (range : minBigint ≤ n ∧ n ≤ maxBigint) : ∃ x, ofInt? n = some x := by
  have lt : n.natAbs < twoTo (53 + 11) := by
    have : minBigint = -(twoTo 63 : Int) ∧ maxBigint = (twoTo 63 : Int) - 1 := ⟨rfl, rfl⟩
    have : twoTo (53 + 11) = twoTo 63 * 2 := rfl
    omega
  exact exists_ofQuotient _ (Nat.lt_of_le_of_lt (quotientExponent_one_le lt) (by decide))

end Binary64

/-- The signed 64-bit integers that are doubles are those that need at most 53 bits, up to a power of two. -/
theorem isDouble_iff {n : Int} (range : minBigint ≤ n ∧ n ≤ maxBigint) :
    IsDouble n ↔ ∃ s e, s < twoTo 53 ∧ n.natAbs = s * twoTo e := by
  constructor
  · rintro ⟨x, nearest, same⟩
    exact same.bits (Binary64.ofQuotient_eq Nat.one_pos nearest).2
  · rintro ⟨s, e, small, bits⟩
    obtain ⟨x, nearest⟩ := Binary64.exists_ofInt? range
    refine ⟨x, nearest, ?_⟩
    have lt : n.natAbs < twoTo (53 + e) :=
      calc n.natAbs = s * twoTo e := bits
        _ < twoTo 53 * twoTo e := Nat.mul_lt_mul_of_pos_right small (twoTo_pos e)
        _ = twoTo (53 + e) := (Nat.pow_add 2 _ _).symm
    have exponent := Binary64.quotientExponent_one_le lt
    have units : n.natAbs * Binary64.unit = s * twoTo (e + 1074) := by
      rw [bits, Nat.mul_assoc, Binary64.twoTo_mul_unit]
    have divides : 1 * twoTo (Binary64.quotientExponent n.natAbs 1) ∣ n.natAbs * Binary64.unit := by
      rw [Nat.one_mul, units]
      exact Nat.dvd_mul_left_of_dvd (Nat.pow_dvd_pow 2 exponent) s
    have exact : Binary64.quotientUnits n.natAbs 1 = n.natAbs * Binary64.unit := by
      have integral := (roundHalfEven_mul_eq_iff (Nat.mul_pos Nat.one_pos (twoTo_pos _))).mpr divides
      rw [Nat.one_mul] at integral
      rw [Binary64.quotientUnits, Nat.one_mul]
      exact integral
    rw [Binary64.Is, (Binary64.ofQuotient_eq Nat.one_pos nearest).1, exact, signed_mul, signed_natAbs]

/-- Up to the greatest magnitude that a text operand may have, every integer is a double. -/
theorem isDouble_of_le {n : Int} (le : n.natAbs ≤ maxExactDouble) : IsDouble n := by
  have limit : maxExactDouble = twoTo 52 * twoTo 1 := rfl
  have range : minBigint ≤ n ∧ n ≤ maxBigint := by
    have : minBigint = -(9223372036854775808 : Int) ∧ maxBigint = (9223372036854775807 : Int) := ⟨rfl, rfl⟩
    have : maxExactDouble = 9007199254740992 := rfl
    omega
  rw [isDouble_iff range]
  rcases Nat.lt_or_ge n.natAbs maxExactDouble with below | reached
  · exact ⟨n.natAbs, 0, below, (Nat.mul_one _).symm⟩
  · have fits : twoTo 52 < twoTo 53 := Nat.pow_lt_pow_right Nat.one_lt_two (by decide)
    exact ⟨twoTo 52, 1, fits, (Nat.le_antisymm le reached).trans limit⟩

end PivotOracle
