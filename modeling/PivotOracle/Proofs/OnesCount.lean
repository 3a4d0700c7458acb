import Mathlib.Data.Bool.Count
import Mathlib.Data.Int.Bitwise
import Mathlib.Data.List.Count
import PivotOracle.Proofs.IntegerTrees

/-!
# Counts of ones

An integer is counted by its word: the 64 bits of which each weighs twice what the one below weighs, and the
highest weighs negatively. Every signed 64-bit integer has one word, and the count is the number of ones in it. The
word of minus one less an integer has all its bits turned over, so that the two counts make up 64.

* `signedValue` — the integer that a word stands for.
* `exists_word` — every integer in range has a word.
* `onesCount_signedValue` — the count of an integer is the number of ones in its word.
* `signedValue_map_not` — the word with all bits turned over.
* `Expr.predict_bitCount` — what is predicted of the count of an integer, and of minus one less the integer.
-/

namespace PivotOracle

/-! ### Words -/

/-- The weight of a bit, one or zero. -/
def bitWeight (bit : Bool) : Int := if bit then 1 else 0

/-- The integer that a word stands for in two's complement, the lowest bit first: each bit weighs twice what the one
before it weighs, and the last one negatively. -/
def signedValue : List Bool → Int
  | [] => 0
  | [sign] => -bitWeight sign
  | bit :: next :: rest => bitWeight bit + 2 * signedValue (next :: rest)

theorem bitWeight_not (bit : Bool) : bitWeight (!bit) = 1 - bitWeight bit := by
  cases bit <;> rfl

/-- Every integer that fits into so many bits has a word of these. -/
theorem exists_word (w : Nat) {n : Int} (least : -2 ^ w ≤ n) (greatest : n < 2 ^ w) :
    ∃ bits : List Bool, bits.length = w + 1 ∧ signedValue bits = n := by
  induction w generalizing n with
  | zero =>
      have sign : n = 0 ∨ n = -1 := by omega
      rcases sign with rfl | rfl
      · exact ⟨[false], rfl, rfl⟩
      · exact ⟨[true], rfl, rfl⟩
  | succ w ih =>
      -- The lowest bit is the parity, and the others are the word of the half.
      rw [Int.pow_succ] at least greatest
      obtain ⟨bits, length, half⟩ := ih (n := n / 2) (by omega) (by omega)
      obtain ⟨bit, rest, rfl⟩ := List.exists_cons_of_length_eq_add_one length
      refine ⟨decide (n % 2 = 1) :: bit :: rest, congrArg (· + 1) length, ?_⟩
      rw [signedValue, half, bitWeight]
      simp only [decide_eq_true_eq]
      split <;> omega

/-- A word with all bits turned over stands for minus one less the integer. -/
theorem signedValue_map_not {bits : List Bool} (nonempty : bits ≠ []) :
    signedValue (bits.map (!·)) = -1 - signedValue bits := by
  fun_induction signedValue bits with
  | case1 => exact absurd rfl nonempty
  | case2 sign =>
      rw [List.map_singleton, signedValue, bitWeight_not]
      omega
  | case3 bit next rest ih =>
      have turned := ih (List.cons_ne_nil _ _)
      rw [List.map_cons] at turned
      rw [List.map_cons, List.map_cons, signedValue, turned, bitWeight_not]
      omega

/-! ### The bits of an integer -/

/-- The bits of a word are those of the integer that it stands for. -/
theorem testBit_signedValue {bits : List Bool} {i : Nat} (inside : i < bits.length) :
    (signedValue bits).testBit i = bits[i] := by
  fun_induction signedValue bits generalizing i with
  | case1 => exact absurd inside (Nat.not_lt_zero i)
  | case2 sign =>
      have first : i = 0 := Nat.lt_one_iff.mp inside
      subst first
      cases sign <;> rfl
  | case3 bit next rest ih =>
      have shape : bitWeight bit + 2 * signedValue (next :: rest) = Int.bit bit (signedValue (next :: rest)) := by
        rw [Int.bit_val, Int.add_comm]
        cases bit <;> rfl
      rw [shape]
      cases i with
      | zero => exact Int.testBit_bit_zero _ _
      | succ i =>
          rw [Int.testBit_bit_succ]
          exact ih (Nat.lt_of_succ_lt_succ inside)

/-- The low bits of an integer are kept in a word of so many bits. -/
theorem getLsbD_ofInt {w i : Nat} (inside : i < w) (n : Int) : (BitVec.ofInt w n).getLsbD i = n.testBit i := by
  cases n with
  | ofNat m =>
      rw [Int.ofNat_eq_natCast, BitVec.ofInt_natCast, BitVec.getLsbD_ofNat, decide_eq_true inside, Bool.true_and]
      rfl
  | negSucc m =>
      rw [BitVec.ofInt_negSucc_eq_not_ofNat, BitVec.getLsbD_not, BitVec.getLsbD_ofNat, decide_eq_true inside,
        Bool.true_and, Bool.true_and]
      rfl

/-- The count of ones of an integer is that of its word. -/
theorem onesCount_signedValue {bits : List Bool} (length : bits.length = 64) :
    onesCount (signedValue bits) = bits.count true := by
  have listed : (List.range 64).map (fun i => (BitVec.ofInt 64 (signedValue bits)).getLsbD i) = bits := by
    refine List.ext_getElem (by rw [List.length_map, List.length_range, length]) fun i inRange inside => ?_
    rw [List.getElem_map, List.getElem_range, getLsbD_ofInt (length ▸ inside), testBit_signedValue inside]
  conv => rhs; rw [← listed]
  rw [onesCount, List.count, List.countP_map]
  congr 1
  funext i
  simp

/-! ### Predictions -/

namespace Expr

variable {e : Expr} {n : Bigint}

/-- The count of an expression that is an integer. -/
theorem evaluate_bitCount (value : e.evaluate .mysql = .ok (.int n)) :
    (call .bitCount [e]).evaluate .mysql = Scalar.ofInt (onesCount n.val) := by
  rw [evaluate_call rfl rfl, evaluateArguments, value]
  rfl

/-- Minus one less an integer is in range. -/
theorem evaluate_minusOne_subtract (value : e.evaluate .mysql = .ok (.int n)) :
    ∃ m : Bigint, m.val = -1 - n.val ∧
      (arithmetic .subtract (constant (.int ⟨-1, by decide⟩)) e).evaluate .mysql = .ok (.int m) := by
  have inRange : IsBigint (-1 - n.val) := by
    have := n.inRange
    simp only [IsBigint, minBigint, maxBigint] at *
    omega
  refine ⟨⟨-1 - n.val, inRange⟩, rfl, ?_⟩
  rw [evaluate, value]
  change ArithmeticOperator.subtract.apply .mysql (.int ⟨-1, by decide⟩) (.int n) = _
  rw [ArithmeticOperator.apply_int]
  exact (if_pos inRange).trans (Scalar.ofInt_eq_ok inRange)

/-- The count of what evaluates to an integer is predicted: it is the number of ones in the integer's word. -/
theorem predict_bitCount_of_word (value : e.evaluate .mysql = .ok (.int n)) {bits : List Bool}
    (length : bits.length = 64) (word : signedValue bits = n.val) :
    ∃ ones : Bigint, ones.val = bits.count true ∧
      (call .bitCount [e]).predict .mysql = .ok (.value (.int ones)) := by
  have count : onesCount n.val = bits.count true := word ▸ onesCount_signedValue length
  have inRange : IsBigint (onesCount n.val) := by
    have bound := FunctionRule.onesCount_le n.val
    simp only [IsBigint, minBigint, maxBigint]
    omega
  refine ⟨⟨onesCount n.val, inRange⟩, congrArg Nat.cast count, predict_eq_value_iff.mpr ?_⟩
  rw [evaluate_bitCount value, Scalar.ofInt_eq_ok inRange]

/-- The count of what is predicted as an integer under MySQL is predicted, and so is that of minus one less it. The
integer has a word of 64 bits in two's complement; the first count is the number of ones in this word, between 0 and
64, and the second one is the number of zeros. -/
theorem predict_bitCount (value : e.predict .mysql = .ok (.value (.int n))) :
    (∃ bits : List Bool, bits.length = 64 ∧ signedValue bits = n.val) ∧
    ∀ bits : List Bool, bits.length = 64 → signedValue bits = n.val →
      ∃ ones zeros : Bigint,
        (call .bitCount [e]).predict .mysql = .ok (.value (.int ones)) ∧
        (call .bitCount [arithmetic .subtract (constant (.int ⟨-1, by decide⟩)) e]).predict .mysql =
          .ok (.value (.int zeros)) ∧
        ones.val = bits.count true ∧ zeros.val = bits.count false ∧
        0 ≤ ones.val ∧ ones.val ≤ 64 ∧ ones.val + zeros.val = 64 := by
  rw [predict_eq_value_iff] at value
  refine ⟨?_, fun bits length word => ?_⟩
  · have inRange := n.inRange
    simp only [minBigint, maxBigint] at inRange
    exact exists_word 63 (by omega) (by omega)
  · obtain ⟨m, opposite, difference⟩ := evaluate_minusOne_subtract value
    have nonempty : bits ≠ [] := List.ne_nil_of_length_eq_add_one length
    have turned : signedValue (bits.map (!·)) = m.val := by rw [signedValue_map_not nonempty, word, opposite]
    obtain ⟨ones, countOnes, predictOnes⟩ := predict_bitCount_of_word value length word
    obtain ⟨zeros, countZeros, predictZeros⟩ :=
      predict_bitCount_of_word difference ((List.length_map _).trans length) turned
    have zerosOf : (bits.map (!·)).count true = bits.count false :=
      List.count_map_of_injective bits (!·) (fun _ _ => Bool.not_inj) false
    have total : bits.count true + bits.count false = 64 := by
      rw [List.count_true_add_count_false, length]
    rw [zerosOf] at countZeros
    refine ⟨ones, zeros, predictOnes, predictZeros, countOnes, countZeros, ?_, ?_, ?_⟩ <;> omega

/-- The word of the least integer has one one, its highest bit. -/
theorem predict_bitCount_least :
    let e := Expr.constant (.int ⟨minBigint, by decide⟩)
    let bits := List.replicate 63 false ++ [true]
    e.predict .mysql = .ok (.value (.int ⟨minBigint, by decide⟩)) ∧
      bits.length = 64 ∧ signedValue bits = minBigint ∧
      (call .bitCount [e]).predict .mysql = .ok (.value (.int 1)) := by
  intro e bits
  have value : e.predict .mysql = .ok (.value (.int ⟨minBigint, by decide⟩)) := rfl
  obtain ⟨-, counts⟩ := predict_bitCount value
  have word : signedValue bits = minBigint := by decide +kernel
  obtain ⟨⟨ones, inRange⟩, -, predicted, -, count, -⟩ := counts bits rfl word
  have one : ones = 1 := count.trans (by decide +kernel)
  subst one
  exact ⟨value, rfl, word, predicted⟩

end Expr

end PivotOracle
