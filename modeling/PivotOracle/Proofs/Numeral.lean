import Mathlib.Data.List.Induction
import PivotOracle.Predict.Reading

/-!
# Integers as texts

The text of an integer is a numeral, and each reading of numbers reads the integer back from it.

* `Text.takeDigits_append` — a run of digits ends where the digits do.
* `IntegerNumeral.read_append`, `DecimalNumeral.read_append` — so does a numeral.
* `head?_toDigits_ne` — the digits of a number start with no zero that could be left out.
* `readSigned_ofInt`, `readLiteral_ofInt` — a signed 64-bit integer is read back from its text.
* `requireSafeStart_ofInt` — the text of an integer starts with neither a newline nor a period.
-/

namespace PivotOracle

/-- A digit class has the digits `0` to `9`, with the values that they have in decimal. -/
def DigitClass.HasAscii (digit : DigitClass) : Prop :=
  ∀ c : Char, c.isDigit = true → digit c = some (c.toNat - 48)

theorem isDigit_iff {c : Char} : c.isDigit = true ↔ 48 ≤ c.toNat ∧ c.toNat ≤ 57 := by
  simp only [Char.isDigit, Bool.and_eq_true, decide_eq_true_eq]
  rfl

theorem decimalDigit_hasAscii : decimalDigit.HasAscii := by
  intro c isDigit
  obtain ⟨low, high⟩ := isDigit_iff.mp isDigit
  have found : zeroDigits.find? (fun z => z ≤ c.toNat && c.toNat < z + 10) = some 0x30 := by
    refine List.find?_cons_of_pos (l := zeroDigits.tail) ?_
    simp only [Bool.and_eq_true, decide_eq_true_eq]
    omega
  rw [decimalDigit, found]
  rfl

namespace Text

/-- A text does not start with a digit. -/
def StopsDigits (digit : DigitClass) (t : Text) : Prop :=
  ∀ c, t.head? = some (.char c) → digit c = none

@[simp] theorem stopsDigits_nil (digit : DigitClass) : StopsDigits digit [] :=
  fun _ h => nomatch h

theorem takeDigits_of_stopsDigits {digit : DigitClass} {t : Text} (stop : t.StopsDigits digit) :
    t.takeDigits digit = ([], t) := by
  cases t with
  | nil => rfl
  | cons s t =>
      cases s with
      | byte b => rfl
      | char c => simp [takeDigits, stop c rfl]

/-- A run of digits is taken up to where a text follows that does not start with one. -/
theorem takeDigits_append {digit : DigitClass} {digits : List Char}
    (all : ∀ c ∈ digits, (digit c).isSome) {rest : Text} (stop : rest.StopsDigits digit) :
    Text.takeDigits digit (digits.map .char ++ rest) = (digits, rest) := by
  induction digits with
  | nil => exact takeDigits_of_stopsDigits stop
  | cons c digits ih =>
      obtain ⟨head, tail⟩ := List.forall_mem_cons.mp all
      simp [takeDigits, head, ih tail]

/-- The sign of an integer: a minus where it is negative. -/
def ofSign (negative : Bool) : Text := if negative then [.char '-'] else []

theorem ofInt_eq (n : Int) :
    ofInt n = ofSign (decide (n < 0)) ++ (Nat.toDigits 10 n.natAbs).map .char := by
  cases n with
  | ofNat n => simp [ofInt, ofNat, ofSign]
  | negSucc n => simp [ofInt, ofNat, ofSign, Int.negSucc_lt_zero]

end Text

namespace DigitClass

theorem value_concat (digit : DigitClass) (digits : List Char) (c : Char) :
    digit.value (digits ++ [c]) = 10 * digit.value digits + (digit c).getD 0 := by
  simp only [value, List.foldl_append, List.foldl_cons, List.foldl_nil]

/-- A number is below the power of ten with as many zeros as it has digits. -/
theorem value_asciiDigit_lt (digits : List Char) : asciiDigit.value digits < tenTo digits.length := by
  induction digits using List.reverseRecOn with
  | nil => decide
  | append_singleton digits c ih =>
      have worth : (asciiDigit c).getD 0 ≤ 9 := by
        unfold asciiDigit
        split
        · rename_i between
          have high : c.toNat ≤ 57 := between.2
          rw [Option.getD_some]
          omega
        · exact Nat.zero_le _
      rw [value_concat, List.length_append, List.length_singleton, tenTo_succ]
      omega

end DigitClass

theorem isDigit_of_mem_toDigits {n : Nat} {c : Char} (mem : c ∈ Nat.toDigits 10 n) :
    c.isDigit = true :=
  Nat.isDigit_of_mem_toDigits (by decide) (by decide) mem

/-- The digits of a number have that number as their value. -/
theorem DigitClass.HasAscii.value_eq_ofDigitChars {digit : DigitClass} (ascii : digit.HasAscii)
    {digits : List Char} (all : ∀ c ∈ digits, c.isDigit = true) :
    digit.value digits = Nat.ofDigitChars 10 digits 0 := by
  suffices general : ∀ start, digits.foldl (fun n c => 10 * n + (digit c).getD 0) start =
      Nat.ofDigitChars 10 digits start from general 0
  induction digits with
  | nil => simp
  | cons c digits ih =>
      intro start
      obtain ⟨head, tail⟩ := List.forall_mem_cons.mp all
      rw [List.foldl_cons, ascii c head, Option.getD_some, Nat.ofDigitChars_cons]
      exact ih tail _

/-- The digits of a number do not start with a zero, unless it is the only one. -/
theorem head?_toDigits_ne {n : Nat} (pos : 0 < n) : (Nat.toDigits 10 n).head? ≠ some '0' := by
  induction n using Nat.strongRecOn with
  | ind n ih =>
      by_cases small : n < 10
      · have digit : ∀ m < 10, 0 < m → Nat.digitChar m ≠ '0' := by decide
        rw [Nat.toDigits_of_lt_base small]
        exact fun zero => digit n small pos (Option.some.inj zero)
      · have fewer := ih (n / 10) (by omega) (by omega)
        rw [Nat.toDigits_of_base_le (by decide) (Nat.le_of_not_lt small), List.head?_append]
        cases digits : Nat.toDigits 10 (n / 10) with
        | nil => exact absurd digits Nat.toDigits_ne_nil
        | cons c rest =>
            rw [digits] at fewer
            exact fewer

theorem DigitClass.HasAscii.value_toDigits {digit : DigitClass} (ascii : digit.HasAscii) (n : Nat) :
    digit.value (Nat.toDigits 10 n) = n := by
  rw [ascii.value_eq_ofDigitChars fun c => isDigit_of_mem_toDigits]
  exact Nat.ofDigitChars_ten_toDigits

/-! ### Numerals -/

theorem signed_natAbs (n : Int) : signed (n < 0) n.natAbs = n := by
  unfold signed
  split <;> rename_i sign <;> simp only [decide_eq_true_eq] at sign <;> omega

theorem natAbs_signed (negative : Bool) (n : Nat) : (signed negative n).natAbs = n := by
  cases negative with
  | false => exact Int.natAbs_natCast n
  | true => exact (Int.natAbs_neg n).trans (Int.natAbs_natCast n)

theorem signed_mul (negative : Bool) (m n : Nat) : signed negative (m * n) = signed negative m * n := by
  cases negative with
  | false => exact Int.natCast_mul m n
  | true => exact (congrArg Neg.neg (Int.natCast_mul m n)).trans (Int.neg_mul _ _).symm

/-- A sign is taken off the digits that it stands before; digits have no sign of their own. -/
theorem Text.takeSign_append (negative : Bool) {digits : List Char} (nonempty : digits ≠ [])
    (all : ∀ c ∈ digits, c.isDigit = true) (rest : Text) :
    takeSign (ofSign negative ++ (digits.map .char ++ rest)) =
      (negative, digits.map .char ++ rest) := by
  cases negative with
  | true => rfl
  | false =>
      cases digits with
      | nil => exact absurd rfl nonempty
      | cons c digits =>
          obtain ⟨low, high⟩ := isDigit_iff.mp (all c List.mem_cons_self)
          have notMinus : c ≠ '-' := by
            rintro rfl
            exact absurd low (by decide)
          have notPlus : c ≠ '+' := by
            rintro rfl
            exact absurd low (by decide)
          simp [ofSign, takeSign, notMinus, notPlus]

/-- An integer numeral ends where its digits do. -/
theorem IntegerNumeral.read_append {digit : DigitClass} (ascii : digit.HasAscii) (negative : Bool)
    {digits : List Char} (nonempty : digits ≠ []) (all : ∀ c ∈ digits, c.isDigit = true)
    {rest : Text} (stop : rest.StopsDigits digit) :
    read digit (Text.ofSign negative ++ (digits.map .char ++ rest)) =
      some (⟨negative, digits⟩, rest) := by
  have taken : Text.takeDigits digit (digits.map .char ++ rest) = (digits, rest) :=
    Text.takeDigits_append (fun c mem => by simp [ascii c (all c mem)]) stop
  rw [read, Text.takeSign_append negative nonempty all]
  cases digits with
  | nil => exact absurd rfl nonempty
  | cons c digits => simp only [taken]

/-- No point and no exponent starts a text. -/
def Text.StopsDecimal (t : Text) : Prop :=
  t.head? ≠ some (.char '.') ∧ t.head? ≠ some (.char 'e') ∧ t.head? ≠ some (.char 'E')

/-- Digits are a decimal numeral without fraction and exponent, up to a text that starts with none. -/
theorem DecimalNumeral.read_append {digit : DigitClass} (ascii : digit.HasAscii) (negative : Bool)
    {digits : List Char} (nonempty : digits ≠ []) (all : ∀ c ∈ digits, c.isDigit = true)
    {rest : Text} (stop : rest.StopsDigits digit) (whole : rest.StopsDecimal) :
    read digit (Text.ofSign negative ++ (digits.map .char ++ rest)) =
      some (⟨negative, digits, [], none⟩, rest) := by
  have taken : Text.takeDigits digit (digits.map .char ++ rest) = (digits, rest) :=
    Text.takeDigits_append (fun c mem => by simp [ascii c (all c mem)]) stop
  have noExponent : readExponent digit rest = none := by
    unfold readExponent
    split
    · exact absurd rfl whole.2.1
    · exact absurd rfl whole.2.2
    · rfl
  have alone : readDigits digit (digits.map .char ++ rest) = some (digits, [], rest) := by
    unfold readDigits
    rw [taken]
    split
    · rename_i same
      cases same
      exact absurd rfl nonempty
    · rename_i same
      cases same
      exact absurd rfl nonempty
    · rename_i same
      cases same
      exact absurd rfl whole.1
    · rename_i same
      cases same
      rfl
  rw [read, Text.takeSign_append negative nonempty all]
  simp only [alone, noExponent]

/-- Digits alone are a decimal numeral without fraction and exponent. -/
theorem DecimalNumeral.read_digits {digit : DigitClass} (ascii : digit.HasAscii) (negative : Bool)
    {digits : List Char} (nonempty : digits ≠ []) (all : ∀ c ∈ digits, c.isDigit = true) :
    read digit (Text.ofSign negative ++ digits.map .char) =
      some (⟨negative, digits, [], none⟩, []) := by
  have read := read_append ascii negative nonempty all (Text.stopsDigits_nil digit)
    ⟨nofun, nofun, nofun⟩
  rwa [List.append_nil] at read

theorem IntegerNumeral.read_ofInt {digit : DigitClass} (ascii : digit.HasAscii) (n : Int) :
    read digit (Text.ofInt n) = some (⟨decide (n < 0), Nat.toDigits 10 n.natAbs⟩, []) := by
  have whole := read_append ascii (decide (n < 0)) (Nat.toDigits_ne_nil (n := n.natAbs) (b := 10))
    (fun c => isDigit_of_mem_toDigits) (Text.stopsDigits_nil digit)
  rw [List.append_nil] at whole
  rw [Text.ofInt_eq, whole]

theorem DecimalNumeral.read_ofInt {digit : DigitClass} (ascii : digit.HasAscii) (n : Int) :
    read digit (Text.ofInt n) =
      some (⟨decide (n < 0), Nat.toDigits 10 n.natAbs, [], none⟩, []) := by
  rw [Text.ofInt_eq, read_digits ascii _ Nat.toDigits_ne_nil fun c => isDigit_of_mem_toDigits]

theorem IntegerNumeral.value_ofInt {digit : DigitClass} (ascii : digit.HasAscii) (n : Int) :
    value digit ⟨decide (n < 0), Nat.toDigits 10 n.natAbs⟩ = n := by
  rw [value, ascii.value_toDigits]
  by_cases negative : n < 0
  · simp only [negative, decide_true, signed, if_true]
    omega
  · simp only [negative, decide_false, signed, Bool.false_eq_true, if_false]
    omega

theorem Decimal.ofNumeral_ofInt {digit : DigitClass} (ascii : digit.HasAscii) (n : Int) :
    ofNumeral digit ⟨decide (n < 0), Nat.toDigits 10 n.natAbs, [], none⟩ =
      ⟨decide (n < 0), n.natAbs, 0⟩ := by
  simp [ofNumeral, ascii.value_toDigits]

/-- Rounding keeps a decimal that has no more digits than it may have. -/
theorem Decimal.rounded_eq_self {digits : Nat} {d : Decimal} (positive : 0 < digits)
    (short : digitCount d.coefficient ≤ digits) : d.rounded digits = d := by
  have dropped : digitCount d.coefficient - digits = 0 := Nat.sub_eq_zero_of_le short
  have exact : roundHalfEven d.coefficient 1 = d.coefficient := by
    simp [roundHalfEven, Nat.mod_one]
  have below : d.coefficient < 10 ^ digits :=
    (Nat.length_toDigits_le_iff (by decide) positive).mp short
  have notPower : d.coefficient ≠ tenTo digits := Nat.ne_of_lt below
  simp [rounded, dropped, exact, notPower]

/-- A signed 64-bit integer has at most nineteen digits. -/
theorem length_toDigits_natAbs_le (n : Bigint) :
    (Nat.toDigits 10 n.val.natAbs).length ≤ maxBigintDigits := by
  refine (Nat.length_toDigits_le_iff (by decide) (by decide)).mpr ?_
  have := n.inRange
  simp only [minBigint, maxBigint, maxBigintDigits] at *
  omega

theorem head?_ofInt (n : Int) :
    ∃ c, (Text.ofInt n).head? = some (.char c) ∧ (c = '-' ∨ c.isDigit = true) := by
  rw [Text.ofInt_eq]
  by_cases negative : n < 0
  · exact ⟨'-', by simp [Text.ofSign, negative], .inl rfl⟩
  · cases digits : Nat.toDigits 10 n.natAbs with
    | nil => exact absurd digits Nat.toDigits_ne_nil
    | cons c rest =>
        refine ⟨c, by simp [Text.ofSign, negative], .inr ?_⟩
        exact isDigit_of_mem_toDigits (n := n.natAbs) (by simp [digits])

/-- No blank starts the text of an integer, and neither a newline nor a period does. -/
theorem skipBlanks_ofInt (n : Int) : (Text.ofInt n).skipBlanks = Text.ofInt n := by
  obtain ⟨c, head, sign⟩ := head?_ofInt n
  cases text : Text.ofInt n with
  | nil => rfl
  | cons s rest =>
      rw [text] at head
      cases head
      have notBlank : c ≠ ' ' ∧ c ≠ '\t' := by
        rcases sign with rfl | isDigit
        · decide
        · constructor <;> rintro rfl <;> cases isDigit
      simp [Text.skipBlanks, notBlank]

theorem head?_ofInt_ne (n : Int) :
    (Text.ofInt n).head? ≠ some (.char '\n') ∧ (Text.ofInt n).head? ≠ some (.char '.') := by
  obtain ⟨c, head, sign⟩ := head?_ofInt n
  rw [head]
  rcases sign with rfl | isDigit
  · decide
  · constructor <;> rintro ⟨⟩ <;> cases isDigit

theorem requireSafeStart_ofInt (n : Int) : requireSafeStart (.text (Text.ofInt n)) = .ok () := by
  have heads := head?_ofInt_ne n
  simp [requireSafeStart, skipBlanks_ofInt, heads]

theorem numeralDigit_hasAscii : numeralDigit.HasAscii := decimalDigit_hasAscii

theorem readValue_ofInt (n : Bigint) :
    IntegerNumeral.readValue numeralDigit
      ⟨decide (n.val < 0), Nat.toDigits 10 n.val.natAbs⟩ = .ok n.val := by
  have short : (Nat.toDigits 10 n.val.natAbs).length ≤ maxDigits :=
    Nat.le_trans (length_toDigits_natAbs_le n) (by decide)
  rw [IntegerNumeral.readValue, if_pos short, IntegerNumeral.value_ofInt numeralDigit_hasAscii]

/-- MySQL reads a signed 64-bit integer back from its text. -/
theorem readSigned_ofInt (n : Bigint) : readSigned numeralDigit (Text.ofInt n.val) = .ok n := by
  have significant : ¬ maxBigintDigits <
      ((Nat.toDigits 10 n.val.natAbs).dropWhile (· = '0')).length :=
    Nat.not_lt.mpr (Nat.le_trans (List.dropWhile_sublist _).length_le (length_toDigits_natAbs_le n))
  simp only [readSigned, skipBlanks_ofInt, (head?_ofInt_ne n.val).1, if_false,
    IntegerNumeral.read_ofInt numeralDigit_hasAscii, significant, readValue_ofInt]
  simp only [bind, Except.bind, Bigint.ofInt?_val]

theorem wholeNumeral?_ofInt (n : Int) :
    wholeNumeral? numeralDigit (Text.ofInt n) =
      some ⟨decide (n < 0), Nat.toDigits 10 n.natAbs⟩ := by
  rw [wholeNumeral?, IntegerNumeral.read_ofInt numeralDigit_hasAscii]

/-- SQLite reads a signed 64-bit integer back from its text. -/
theorem readLiteral_ofInt (n : Bigint) : readLiteral numeralDigit (Text.ofInt n.val) = .ok n := by
  simp only [readLiteral, wholeNumeral?_ofInt, readValue_ofInt]
  simp only [bind, Except.bind, Bigint.ofInt?_val]

end PivotOracle
