import Mathlib.Algebra.Group.Nat.Defs
import PivotOracle.Text.Utf8

/-!
# The order of texts

Texts are ordered symbol by symbol, by the places of symbols. This is a total order, in which no two texts
tie. On texts without stray bytes it is the order of their bytes in UTF-8, since the encoding keeps the order
of code points: of two characters the one with more bytes starts with the greater one, and characters with
equally many bytes are groups of six bits each, the highest first.

* `Text.compare_eq_compareLex` — the order of texts is the lexicographic order by places.
* `groups` — a code point as the bytes of its encoding.
* `compare_groups_append` — of code points with equally many bytes, the bytes compare as the code points do.
* `compare_utf8EncodeChar_append` — so they do for all characters, whatever bytes follow.
* `Text.compare_ofString` — the order of two strings is that of their bytes.
-/

namespace PivotOracle

/-! ### Symbols and texts -/

/-- No two symbols have the same place: stray bytes stand where surrogates would, which are no
characters. -/
theorem Symbol.code_injective {a b : Symbol} (same : a.code = b.code) : a = b := by
  have apart (c : Char) (x : UInt8) : c.toNat ≠ 0xDC00 + x.toNat := by
    have small : x.toNat < 256 := x.toNat_lt
    have valid : c.toNat < 0xD800 ∨ 0xDFFF < c.toNat ∧ c.toNat < 0x110000 := c.valid
    omega
  cases a with
  | char c =>
      cases b with
      | char c' => exact congrArg Symbol.char (Char.toNat_inj.mp same)
      | byte y => exact absurd same (apart c y)
  | byte x =>
      cases b with
      | char c' => exact absurd same.symm (apart c' x)
      | byte y => exact congrArg Symbol.byte (UInt8.toNat_inj.mp (Nat.add_left_cancel same))

instance : Std.LawfulEqCmp (compareOn Symbol.code) where
  eq_of_compare h := Symbol.code_injective (Std.LawfulEqOrd.eq_of_compare h)

namespace Text

theorem compare_eq_compareLex : Text.compare = List.compareLex (compareOn Symbol.code) := by
  funext s t
  fun_induction Text.compare s t with
  | case1 => rfl
  | case2 => rfl
  | case3 => rfl
  | case4 a s b t ih =>
      rw [ih, List.compareLex_cons_cons]
      rfl

instance : Std.TransCmp Text.compare := by
  rw [compare_eq_compareLex]
  infer_instance

instance : Std.LawfulEqCmp Text.compare := by
  rw [compare_eq_compareLex]
  infer_instance

end Text

/-! ### Bytes -/

/-- Lists of bytes compare as the lists of their numbers. -/
theorem compare_map_toNat (s t : List UInt8) :
    Ord.compare (s.map UInt8.toNat) (t.map UInt8.toNat) = Ord.compare s t := by
  have byte (x y : UInt8) : Ord.compare x.toNat y.toNat = Ord.compare x y := by
    simp only [Ord.compare, compareOfLessAndEq, UInt8.lt_iff_toNat_lt, UInt8.toNat_inj]
  induction s generalizing t with
  | nil => cases t <;> rfl
  | cons x s ih =>
      cases t with
      | nil => rfl
      | cons y t =>
          rw [List.map_cons, List.map_cons, List.compare_cons_cons, List.compare_cons_cons, byte, ih]

theorem compare_add_left (k m n : Nat) : Ord.compare (k + m) (k + n) = Ord.compare m n := by
  simp only [Nat.compare_eq_ite_lt, Nat.add_lt_add_iff_left]

/-- Numbers compare by their quotients and then by their remainders. -/
theorem compare_div_then_mod (k m n : Nat) :
    (Ord.compare (m / k) (n / k)).then (Ord.compare (m % k) (n % k)) = Ord.compare m n := by
  rcases Nat.lt_trichotomy (m / k) (n / k) with less | same | greater
  · rw [Nat.compare_eq_lt.mpr less, Nat.compare_eq_lt.mpr (Nat.lt_of_div_lt_div less)]
    rfl
  · have parts : Ord.compare (k * (m / k) + m % k) (k * (n / k) + n % k) = Ord.compare m n := by
      rw [Nat.div_add_mod, Nat.div_add_mod]
    rw [Nat.compare_eq_eq.mpr same, ← parts, same, compare_add_left]
    rfl
  · rw [Nat.compare_eq_gt.mpr greater, Nat.compare_eq_gt.mpr (Nat.lt_of_div_lt_div greater)]
    rfl

/-! ### Code points -/

/-- A code point in `k + 1` bytes: `k` groups of six bits, marked as bytes that follow a first one, and before
them the bits above, with the mark of a first byte. -/
def groups (mark : Nat) : Nat → Nat → List Nat
  | 0, n => [mark + n]
  | k + 1, n => groups mark k (n / 64) ++ [128 + n % 64]

/-- Code points in equally many bytes compare as their bytes do. -/
theorem compare_groups_append (mark k m n : Nat) (s t : List Nat) :
    Ord.compare (groups mark k m ++ s) (groups mark k n ++ t) =
      (Ord.compare m n).then (Ord.compare s t) := by
  induction k generalizing m n s t with
  | zero => rw [groups, groups, List.singleton_append, List.singleton_append, List.compare_cons_cons,
      compare_add_left]
  | succ k ih =>
      rw [groups, groups, List.append_assoc, List.append_assoc, ih, List.singleton_append,
        List.singleton_append, List.compare_cons_cons, compare_add_left, ← Ordering.then_assoc,
        compare_div_then_mod]

theorem exists_groups_eq_cons (mark k n : Nat) : ∃ rest, groups mark k n = (mark + n / 64 ^ k) :: rest := by
  induction k generalizing n with
  | zero => exact ⟨[], by rw [groups, Nat.pow_zero, Nat.div_one]⟩
  | succ k ih =>
      obtain ⟨rest, same⟩ := ih (n / 64)
      refine ⟨rest ++ [128 + n % 64], ?_⟩
      rw [groups, same, Nat.div_div_eq_div_mul, ← Nat.pow_succ', List.cons_append]

/-- The mark of the first byte, by the number of bytes that follow. -/
def leadMark : Nat → Nat
  | 0 => 0
  | 1 => 192
  | 2 => 224
  | _ => 240

/-- The least code point that is followed by a number of bytes. -/
def leastCode : Nat → Nat
  | 0 => 0
  | 1 => 0x80
  | 2 => 0x800
  | 3 => 0x10000
  | _ => 0x110000

/-- A character is encoded by the groups of its code point, as many as this needs. -/
theorem exists_utf8EncodeChar_eq (c : Char) :
    ∃ k ≤ 3, (String.utf8EncodeChar c).map UInt8.toNat = groups (leadMark k) k c.toNat ∧
      leastCode k ≤ c.toNat ∧ c.toNat < leastCode (k + 1) := by
  have valid : c.toNat < 0xD800 ∨ 0xDFFF < c.toNat ∧ c.toNat < 0x110000 := c.valid
  have byte (n : Nat) : (UInt8.ofNat n).toNat = n % 256 := UInt8.toNat_ofNat'
  simp only [String.utf8EncodeChar, Char.toNat_val]
  generalize c.toNat = n at valid ⊢
  -- In each range the first group keeps all its bits, since the code point has none above them.
  split
  · rename_i le
    refine ⟨0, by decide, ?_, Nat.zero_le n, Nat.lt_succ_of_le le⟩
    simp only [List.map, groups, leadMark, byte, List.cons.injEq, and_true]
    omega
  · rename_i above
    split
    · rename_i le
      refine ⟨1, by decide, ?_, Nat.lt_of_not_le above, Nat.lt_succ_of_le le⟩
      simp only [List.map, groups, leadMark, byte, List.cons_append, List.nil_append, List.cons.injEq, and_true]
      omega
    · rename_i above
      split
      · rename_i le
        refine ⟨2, by decide, ?_, Nat.lt_of_not_le above, Nat.lt_succ_of_le le⟩
        simp only [List.map, groups, leadMark, byte, List.cons_append, List.nil_append, List.cons.injEq, and_true]
        omega
      · rename_i above
        have below : n < 0x110000 := by omega
        refine ⟨3, by decide, ?_, Nat.lt_of_not_le above, below⟩
        simp only [List.map, groups, leadMark, byte, List.cons_append, List.nil_append, List.cons.injEq, and_true]
        omega

/-- Of two characters, the one that is followed by more bytes is the greater one, and so is its first byte. -/
theorem compare_groups_append_of_lt {j k m n : Nat} (less : j < k) (le : k ≤ 3) (below : m < leastCode (j + 1))
    (above : leastCode k ≤ n) (s t : List Nat) :
    m < n ∧ Ord.compare (groups (leadMark j) j m ++ s) (groups (leadMark k) k n ++ t) = .lt := by
  obtain ⟨rest, left⟩ := exists_groups_eq_cons (leadMark j) j m
  obtain ⟨rest', right⟩ := exists_groups_eq_cons (leadMark k) k n
  have bounds : m < n ∧ leadMark j + m / 64 ^ j < leadMark k := by
    have first : j = 0 ∨ j = 1 ∨ j = 2 := by omega
    have second : k = 1 ∨ k = 2 ∨ k = 3 := by omega
    rcases first with rfl | rfl | rfl <;> rcases second with rfl | rfl | rfl <;>
      simp only [leadMark, leastCode] at * <;> omega
  refine ⟨bounds.1, ?_⟩
  rw [left, right, List.cons_append, List.cons_append, List.compare_cons_cons,
    Nat.compare_eq_lt.mpr (Nat.lt_add_right _ bounds.2)]
  rfl

/-- Whatever bytes follow two characters, those of the characters compare as their code points do, and decide
the order unless the characters are the same. -/
theorem compare_utf8EncodeChar_append (c d : Char) (s t : List UInt8) :
    Ord.compare (String.utf8EncodeChar c ++ s) (String.utf8EncodeChar d ++ t) =
      (Ord.compare c.toNat d.toNat).then (Ord.compare s t) := by
  obtain ⟨j, lej, left, leastc, belowc⟩ := exists_utf8EncodeChar_eq c
  obtain ⟨k, lek, right, leastd, belowd⟩ := exists_utf8EncodeChar_eq d
  rw [← compare_map_toNat, ← compare_map_toNat s t, List.map_append, List.map_append, left, right]
  rcases Nat.lt_trichotomy j k with less | rfl | greater
  · obtain ⟨codes, bytes⟩ := compare_groups_append_of_lt less lek belowc leastd
      (s.map UInt8.toNat) (t.map UInt8.toNat)
    rw [bytes, Nat.compare_eq_lt.mpr codes]
    rfl
  · exact compare_groups_append _ _ _ _ _ _
  · obtain ⟨codes, bytes⟩ := compare_groups_append_of_lt greater lej belowd leastc
      (t.map UInt8.toNat) (s.map UInt8.toNat)
    rw [Std.OrientedOrd.eq_swap, bytes, Nat.compare_eq_gt.mpr codes]
    rfl

namespace Text

theorem compare_map_char (s t : List Char) :
    Text.compare (s.map .char) (t.map .char) =
      Ord.compare (s.flatMap String.utf8EncodeChar) (t.flatMap String.utf8EncodeChar) := by
  have nonempty (c : Char) (rest : List UInt8) :
      ∃ x xs, String.utf8EncodeChar c ++ rest = x :: xs :=
    List.exists_cons_of_ne_nil (List.append_ne_nil_of_left_ne_nil String.utf8EncodeChar_ne_nil _)
  induction s generalizing t with
  | nil =>
      cases t with
      | nil => rfl
      | cons d t =>
          obtain ⟨x, xs, bytes⟩ := nonempty d (t.flatMap String.utf8EncodeChar)
          rw [List.flatMap_cons, bytes]
          rfl
  | cons c s ih =>
      cases t with
      | nil =>
          obtain ⟨x, xs, bytes⟩ := nonempty c (s.flatMap String.utf8EncodeChar)
          rw [List.flatMap_cons, bytes]
          rfl
      | cons d t =>
          rw [List.flatMap_cons, List.flatMap_cons, compare_utf8EncodeChar_append, ← ih]
          rfl

/-- The bytes of a string are those of its characters, one after the other. -/
theorem toUTF8_eq_flatMap (s : String) : s.toUTF8.data.toList = s.toList.flatMap String.utf8EncodeChar := by
  conv => lhs; rw [← String.ofList_toList (s := s)]
  rw [String.toUTF8, String.toByteArray_ofList, List.utf8Encode, List.toList_data_toByteArray]

/-- Two strings compare as the bytes of their encodings do: at the first byte in which these differ, a proper
prefix coming first. -/
theorem compare_ofString (s t : String) :
    Text.compare s t = Ord.compare s.toUTF8.data.toList t.toUTF8.data.toList := by
  rw [toUTF8_eq_flatMap, toUTF8_eq_flatMap]
  exact compare_map_char s.toList t.toList

end Text

end PivotOracle
