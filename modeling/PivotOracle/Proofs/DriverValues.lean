import PivotOracle.RawValue
import PivotOracle.Proofs.GreatestDouble
import PivotOracle.Proofs.TextOrder

/-!
# Driver values

A driver hands over numbers of several kinds, and texts as strings or as bytes. What becomes a scalar loses nothing on
the way: an integer is the number that was handed over, and the bytes of a text can be had back from it, whether they
were well-formed or not. Since a byte that stands for a character by itself never stays a stray one, the stray bytes
of a text are those that can be escaped where the text is written back.

* `Text.leadingChar?_utf8EncodeChar_append` — the decoder reads each character where its encoding stands.
* `Text.escaped?`, `Text.escaped?_ofUtf8` — a decoded text, written back.
* `Text.ofUtf8_toUTF8` — the bytes of a string are decoded as its characters.
* `RawValue.number?`, `RawValue.convert_of_number?` — the number that a value is, in whichever form it comes.
* `RawValue.Becomes`, `RawValue.convert_eq_ok_iff` — what is converted, and to which scalar.
* `RawValue.convert_lossless` — the scalars that values become.
-/

namespace PivotOracle

/-! ### Bytes -/

/-- The bytes of a symbol where stray bytes are escaped. A byte below `0x80` is a character, so none is escaped. -/
def Symbol.escaped? : Symbol → Option (List UInt8)
  | .char c => some (String.utf8EncodeChar c)
  | .byte b => if 0x80 ≤ b.toNat then some [b] else none

namespace Text

/-- The bytes of a text where stray bytes are escaped. -/
def escaped? : Text → Option (List UInt8)
  | [] => some []
  | s :: t => do return (← s.escaped?) ++ (← escaped? t)

theorem toNat_getD (bytes : List UInt8) (i : Nat) :
    (bytes.getD i 0).toNat = (bytes.map UInt8.toNat).getD i 0 := by
  simp only [List.getD_eq_getElem?_getD, List.getElem?_map]
  cases bytes[i]? <;> rfl

/-- The length that the first byte announces is the length of the encoding, so the code point of a character is read
where its encoding stands. -/
theorem leadingCode_utf8EncodeChar_append (c : Char) (rest : List UInt8) :
    leadingCode (String.utf8EncodeChar c ++ rest) = c.toNat := by
  obtain ⟨k, le, encoding, least, most⟩ := exists_utf8EncodeChar_eq c
  simp only [leadingCode, toNat_getD, List.map_append, encoding]
  generalize c.toNat = n at least most
  obtain rfl | rfl | rfl | rfl : k = 0 ∨ k = 1 ∨ k = 2 ∨ k = 3 := by omega
  all_goals
    simp only [groups, leadMark, leastCode] at least most ⊢
    simp only [List.cons_append, List.nil_append, List.getD_cons_zero, List.getD_cons_succ]
  · rw [if_pos (by omega)]
    omega
  · rw [if_neg (by omega), if_pos (by omega)]
    omega
  · rw [if_neg (by omega), if_neg (by omega), if_pos (by omega)]
    omega
  · rw [if_neg (by omega), if_neg (by omega), if_neg (by omega)]
    omega

theorem leadingChar?_utf8EncodeChar_append (c : Char) (rest : List UInt8) :
    leadingChar? (String.utf8EncodeChar c ++ rest) = some (c, rest) := by
  have read : Char.ofNat (leadingCode (String.utf8EncodeChar c ++ rest)) = c := by
    rw [leadingCode_utf8EncodeChar_append, Char.ofNat_toNat]
  simp [leadingChar?, read]

/-- A byte below `0x80` is a character by itself. -/
theorem leadingChar?_cons_of_lt {b : UInt8} (small : b.toNat < 0x80) (rest : List UInt8) :
    ∃ c, leadingChar? (b :: rest) = some (c, rest) := by
  have code : (Char.ofNat b.toNat).toNat = b.toNat := by
    have valid : b.toNat.isValidChar := .inl (by omega)
    rw [Char.ofNat, dif_pos valid]
    rfl
  have encoding : String.utf8EncodeChar (Char.ofNat b.toNat) = [b] := by
    simp [String.utf8EncodeChar, code]
    omega
  exact ⟨_, encoding ▸ leadingChar?_utf8EncodeChar_append _ rest⟩

/-- A decoded text is written back as the bytes that it was decoded from. -/
theorem escaped?_ofUtf8 (bytes : List UInt8) : (ofUtf8 bytes).escaped? = some bytes := by
  fun_induction ofUtf8 bytes with
  | case1 bytes c rest leading ih =>
      rw [escaped?, ih, eq_append_of_leadingChar? leading]
      rfl
  | case2 => rfl
  | case3 b rest stray ih =>
      have escapable : 0x80 ≤ b.toNat := by
        refine Nat.le_of_not_lt fun small => ?_
        obtain ⟨c, leading⟩ := leadingChar?_cons_of_lt small rest
        rw [stray] at leading
        cases leading
      rw [escaped?, ih, Symbol.escaped?, if_pos escapable]
      rfl

/-- No two byte sequences are decoded as the same text. -/
theorem ofUtf8_injective : Function.Injective ofUtf8 := by
  intro bytes bytes' same
  rw [← utf8_ofUtf8 bytes, same, utf8_ofUtf8]

theorem ofUtf8_of_leadingChar? {bytes rest : List UInt8} {c : Char}
    (leading : leadingChar? bytes = some (c, rest)) : ofUtf8 bytes = .char c :: ofUtf8 rest := by
  rw [ofUtf8]
  split
  · rename_i found
    rw [leading] at found
    cases found
    rfl
  · rename_i found
    rw [leading] at found
    cases found

/-- The bytes of a string are decoded as its characters. -/
theorem ofUtf8_toUTF8 (s : String) : ofUtf8 s.toUTF8.data.toList = ofString s := by
  rw [toUTF8_eq_flatMap, ofString]
  induction s.toList with
  | nil =>
      rw [ofUtf8]
      rfl
  | cons c cs ih =>
      rw [List.map_cons, ← ih]
      exact ofUtf8_of_leadingChar? (leadingChar?_utf8EncodeChar_append c _)

end Text

/-! ### Numbers -/

/-- The number that a finite double is. -/
def Binary64.number (x : Binary64) : ℚ := x.scaled / unit

/-- The number that a decimal is. -/
def Decimal.number (d : Decimal) : ℚ := if d.negative then -d.magnitude else d.magnitude

/-- A quotient of integers is an integer where nothing remains, and it is the quotient rounded down. -/
theorem intCast_div_eq_intCast_iff {num n : Int} {den : Nat} (pos : 0 < den) :
    (num / den : ℚ) = n ↔ num % den = 0 ∧ num / den = n := by
  have product : (num / den : ℚ) = n ↔ num = n * den := by
    rw [div_eq_iff (Nat.cast_ne_zero.mpr pos.ne')]
    exact_mod_cast Iff.rfl
  rw [product]
  constructor
  · rintro rfl
    exact ⟨Int.mul_emod_left n den, Int.mul_ediv_cancel n (Int.natCast_ne_zero.mpr pos.ne')⟩
  · rintro ⟨nothing, rfl⟩
    exact (Int.ediv_mul_cancel (Int.dvd_of_emod_eq_zero nothing)).symm

theorem signed_emod_eq_zero_iff {negative : Bool} {num den : Nat} :
    signed negative num % den = 0 ↔ den ∣ num := by
  rw [← Int.dvd_iff_emod_eq_zero]
  cases negative with
  | false => exact Int.natCast_dvd_natCast
  | true => exact (Int.dvd_neg).trans Int.natCast_dvd_natCast

theorem signed_ediv {negative : Bool} {num den : Nat} (divides : den ∣ num) :
    signed negative num / den = signed negative (num / den) := by
  cases negative with
  | false => rfl
  | true => exact Int.neg_ediv_of_dvd (Int.natCast_dvd_natCast.mpr divides)

/-- A double is an integer where it is an integer number of units, as many as there are in that integer. -/
theorem Binary64.number_eq_intCast_iff {x : Binary64} {n : Int} :
    x.number = n ↔ x.isIntegral = true ∧ x.toInt = n := by
  have decided : x.isIntegral = true ↔ x.scaled % unit = 0 := decide_eq_true_iff
  rw [decided]
  exact intCast_div_eq_intCast_iff unit_pos

namespace Decimal

variable {d : Decimal}

theorem number_eq_div (d : Decimal) :
    d.number = (signed d.negative (d.coefficient * tenTo d.exponent.toNat) : ℚ) / tenTo (-d.exponent).toNat := by
  rw [number, magnitude_eq_div, signed]
  split
  · rw [Int.cast_neg, Int.cast_natCast, neg_div]
  · rw [Int.cast_natCast]

/-- A decimal is integral where its digits after the point are zeros. -/
theorem isIntegral_iff :
    d.isIntegral = true ↔ tenTo (-d.exponent).toNat ∣ d.coefficient * tenTo d.exponent.toNat := by
  unfold isIntegral
  rcases lt_or_ge d.exponent 0 with fraction | whole
  · have places : 0 < (-d.exponent).toNat := by omega
    have noZeros : d.exponent.toNat = 0 := Int.toNat_of_nonpos fraction.le
    -- The number of digits decides only what the remainder decides too.
    have digits (nonzero : d.coefficient ≠ 0) (divides : tenTo (-d.exponent).toNat ∣ d.coefficient) :
        (-d.exponent).toNat < digitCount d.coefficient := by
      refine Nat.lt_of_not_le fun few => ?_
      have below := (Nat.length_toDigits_le_iff (by decide) places).mp few
      exact Nat.not_le.mpr below (Nat.le_of_dvd (Nat.pos_of_ne_zero nonzero) divides)
    rw [noZeros, tenTo_zero, Nat.mul_one, Nat.dvd_iff_mod_eq_zero]
    simp only [Bool.or_eq_true, Bool.and_eq_true, decide_eq_true_iff, Int.not_le.mpr fraction, or_false]
    constructor
    · rintro (zero | ⟨_, nothing⟩)
      · rw [zero, Nat.zero_mod]
      · exact nothing
    · intro nothing
      by_cases zero : d.coefficient = 0
      · exact .inl zero
      · exact .inr ⟨digits zero (Nat.dvd_of_mod_eq_zero nothing), nothing⟩
  · have noPlaces : (-d.exponent).toNat = 0 := Int.toNat_of_nonpos (Int.neg_nonpos_of_nonneg whole)
    simp [whole, noPlaces]

theorem toInt_eq (d : Decimal) :
    d.toInt = signed d.negative (d.coefficient * tenTo d.exponent.toNat / tenTo (-d.exponent).toNat) := by
  unfold toInt
  split
  · rename_i zero
    rw [zero, Nat.zero_mul, Nat.zero_div]
    cases d.negative <;> rfl
  · rfl

/-- A decimal is an integer where it is integral, whatever its sign is. -/
theorem number_eq_intCast_iff {n : Int} : d.number = n ↔ d.isIntegral = true ∧ d.toInt = n := by
  have pos : 0 < tenTo (-d.exponent).toNat := Nat.pow_pos (by decide)
  rw [number_eq_div, intCast_div_eq_intCast_iff pos, isIntegral_iff, toInt_eq, signed_emod_eq_zero_iff]
  constructor
  · rintro ⟨divides, quotient⟩
    exact ⟨divides, signed_ediv divides ▸ quotient⟩
  · rintro ⟨divides, quotient⟩
    exact ⟨divides, (signed_ediv divides).trans quotient⟩

end Decimal

namespace RawValue

/-- The number that a value is, in whichever form it comes. -/
def number? : RawValue → Option ℚ
  | .plain (.bool b) => some (if b then 1 else 0)
  | .plain (.int n) => some n
  | .plain (.double (.finite x)) => some x.number
  | .decimal (.finite d) => some d.number
  | _ => none

/-- What scalar a value becomes, by the number that it is or by the text that it holds. -/
inductive Becomes : RawValue → Scalar → Prop where
  | null : Becomes (.plain .null) .null
  | number {v : RawValue} {n : Bigint} (same : v.number? = some (n.val : ℚ)) : Becomes v (.int n)
  | string (t : Text) : Becomes (.plain (.text t)) (.text t)
  | bytes (content : List UInt8) : Becomes (.bytes content) (.text (Text.ofUtf8 content))
  | scalar (w : Scalar) : Becomes (.scalar w) w

theorem convertInt_eq_ok_iff {m : Int} {w : Scalar} :
    convertInt m = .ok w ↔ ∃ n : Bigint, m = n.val ∧ w = .int n := by
  unfold convertInt
  constructor
  · intro converted
    split at converted
    · rename_i n found
      cases converted
      exact ⟨n, (Bigint.val_of_ofInt? found).symm, rfl⟩
    · cases converted
  · rintro ⟨n, rfl, rfl⟩
    rw [Bigint.ofInt?_val]

/-- A value that is a number is converted where that is an integer, and in range. -/
theorem convert_of_number? {v : RawValue} {q : ℚ} (number : v.number? = some q) {w : Scalar} :
    v.convert = .ok w ↔ ∃ n : Bigint, q = n.val ∧ w = .int n := by
  -- The numbers with a fraction go through one check for all: whether they are integers, and then which.
  have integral {i : Bool} {m : Int} (e : ConversionError) (is : ∀ n : Int, q = n ↔ i = true ∧ m = n) :
      (if i then convertInt m else .error e) = .ok w ↔ ∃ n : Bigint, q = n.val ∧ w = .int n := by
    simp only [is]
    cases i with
    | false => simp
    | true => simp [convertInt_eq_ok_iff]
  unfold number? at number
  split at number
  · rename_i b
    cases number
    have truth : Data.convert (.bool b) = convertInt (if b then 1 else 0) := by cases b <;> rfl
    refine (Eq.congr_left truth).trans (convertInt_eq_ok_iff.trans ?_)
    cases b <;> exact exists_congr fun n => and_congr_left' (by norm_cast)
  · rename_i m
    cases number
    refine convertInt_eq_ok_iff.trans ?_
    exact exists_congr fun n => and_congr_left' Int.cast_inj.symm
  · cases number
    exact integral _ fun n => Binary64.number_eq_intCast_iff
  · cases number
    exact integral _ fun n => Decimal.number_eq_intCast_iff
  · cases number

/-- A value is converted to the scalar that it becomes, and not at all where it becomes none. -/
theorem convert_eq_ok_iff {v : RawValue} {w : Scalar} : v.convert = .ok w ↔ v.Becomes w := by
  constructor
  · intro converted
    cases number : v.number? with
    | some q =>
        obtain ⟨n, same, rfl⟩ := (convert_of_number? number).mp converted
        exact .number (number.trans (congrArg some same))
    | none =>
        unfold convert at converted
        split at converted
        · rename_i d
          cases d with
          | null =>
              cases converted
              exact .null
          | text t =>
              cases converted
              exact .string t
          | double x => cases x <;> first | cases converted | cases number
          | list items => cases converted
          | table entries => cases converted
          | _ => cases number
        · cases number
        · cases converted
        · cases converted
          exact .bytes _
        · cases converted
          exact .scalar _
  · intro becomes
    cases becomes with
    | null => rfl
    | number same => exact (convert_of_number? same).mpr ⟨_, rfl, rfl⟩
    | string t => rfl
    | bytes content => rfl
    | scalar => rfl

/-- What becomes a scalar loses nothing. Nothing but null becomes null, an integer is the number that it was made of,
and a text is the string that it was made of, or can be written back as the bytes that it was made of. All numbers
that are integers in range, all strings and all bytes become scalars, the bytes of a string the one that this string
becomes, and no two byte sequences the same one. -/
theorem convert_lossless {v : RawValue} (raw : ∀ w, v ≠ .scalar w) :
    (v.convert = .ok .null ↔ v = .plain .null) ∧
    (∀ n : Bigint, v.convert = .ok (.int n) ↔ v.number? = some (n.val : ℚ)) ∧
    (∀ t, v.convert = .ok (.text t) →
      v = .plain (.text t) ∨ ∃ content, v = .bytes content ∧ t.escaped? = some content) ∧
    (∀ t, v = .plain (.text t) → v.convert = .ok (.text t)) ∧
    (∀ content, v = .bytes content → (∃ t, v.convert = .ok (.text t)) ∧
      ∀ content', (RawValue.bytes content').convert = v.convert → content' = content) ∧
    (∀ s : String, v = .bytes s.toUTF8.data.toList → v.convert = .ok (.text s)) := by
  refine ⟨?_, ?_, ?_, ?_, ?_, ?_⟩
  · rw [convert_eq_ok_iff]
    constructor
    · intro becomes
      cases becomes with
      | null => rfl
      | scalar => exact absurd rfl (raw _)
    · rintro rfl
      exact .null
  · intro n
    rw [convert_eq_ok_iff]
    constructor
    · intro becomes
      cases becomes with
      | number same => exact same
      | scalar => exact absurd rfl (raw _)
    · exact .number
  · intro t converted
    cases convert_eq_ok_iff.mp converted with
    | string => exact .inl rfl
    | bytes content => exact .inr ⟨content, rfl, Text.escaped?_ofUtf8 content⟩
    | scalar => exact absurd rfl (raw _)
  · rintro t rfl
    rfl
  · rintro content rfl
    refine ⟨⟨_, rfl⟩, fun content' same => Text.ofUtf8_injective ?_⟩
    simpa only [convert, Except.ok.injEq, Scalar.text.injEq] using same
  · rintro s rfl
    rw [convert, Text.ofUtf8_toUTF8]

/-- A decimal with a zero after its point is an integer, and of bytes in which two would be the long form of a null
character these two stay stray. -/
theorem convert_lossless_samples :
    (RawValue.decimal (.finite ⟨true, 20, -1⟩)).number? = some ((⟨-2, by decide⟩ : Bigint).val : ℚ) ∧
      ∃ t, (RawValue.bytes [0x41, 0xC0, 0x80]).convert = .ok (.text t) ∧ t.escaped? = some [0x41, 0xC0, 0x80] := by
  have number := (convert_lossless (v := .decimal (.finite ⟨true, 20, -1⟩)) (by simp)).2.1 ⟨-2, by decide⟩
  obtain ⟨-, -, texts, -, bytes, -⟩ := convert_lossless (v := .bytes [0x41, 0xC0, 0x80]) (by simp)
  obtain ⟨t, converted⟩ := (bytes _ rfl).1
  refine ⟨number.mp rfl, t, converted, ?_⟩
  obtain string | ⟨content, same, escaped⟩ := texts t converted
  · cases string
  · cases same
    exact escaped

end RawValue

end PivotOracle
