import PivotOracle.Proofs.ForeignDigits

/-!
# Readings of foreign digits

Which texts are read as where `0` to `9` are the only digits. Where the numeral that a reading looks for is not
foreign, the reading is the same. A foreign one gives another integer or another refusal, unless it is cast to zero, or
unless so many digits stand before the foreign one that the cast is refused over both classes. A foreign literal is
none over `0` to `9`.

* `readDouble_eq_of_native` — doubles.
* `wholeNumeral?_asciiDigit_iff`, `readLiteral_eq_iff` — literals.
* `IntegerNumeral.cast_eq_native_iff`, `readSigned_eq_iff` — casts.
* `readings_eq_asciiDigit_iff` — all readings of a text.
-/

namespace PivotOracle

variable {digit : DigitClass}

/-! ### Doubles -/

/-- A text that starts with no foreign numeral after its blanks is the same double over both classes. -/
theorem readDouble_eq_of_native {t : Text} (native : ¬ t.skipBlanks.StartsForeignDecimal) :
    readDouble numeralDigit t = readDouble asciiDigit t := by
  simp only [readDouble, ← DecimalNumeral.read_eq_iff.mpr native]
  cases found : DecimalNumeral.read numeralDigit t.skipBlanks with
  | none => rfl
  | some result =>
      obtain ⟨n, rest⟩ := result
      simp only [Decimal.ofNumeral_eq_of_native fun foreign => native ⟨n, rest, found, foreign⟩]

/-! ### Literals -/

/-- A text is a foreign literal where it is one, and one of its digits is foreign. -/
def Text.IsForeignLiteral (t : Text) : Prop := ∃ n, wholeNumeral? numeralDigit t = some n ∧ n.IsForeign

section Literals

variable {n : IntegerNumeral} {t : Text}

theorem wholeNumeral?_eq_some_iff :
    wholeNumeral? digit t = some n ↔ IntegerNumeral.read digit t = some (n, []) := by
  unfold wholeNumeral?
  split
  · rename_i read
    simp [read]
  · rename_i notWhole
    simp only [reduceCtorEq, false_iff]
    exact notWhole n

/-- The literals over `0` to `9` are those that are not foreign. -/
theorem wholeNumeral?_asciiDigit_iff :
    wholeNumeral? asciiDigit t = some n ↔ wholeNumeral? numeralDigit t = some n ∧ ¬ n.IsForeign := by
  simp only [wholeNumeral?_eq_some_iff, IntegerNumeral.read_eq_some_iff, IntegerNumeral.not_isForeign_iff]
  constructor
  · rintro ⟨nonempty, sign, taken⟩
    have whole := taken
    rw [Text.takeDigits_asciiDigit, Prod.mk.injEq, List.append_eq_nil_iff, List.map_eq_nil_iff,
      List.dropWhile_eq_nil_iff] at whole
    obtain ⟨digits, native, -⟩ := whole
    rw [List.takeWhile_eq_self_iff.mpr native] at digits
    exact ⟨⟨nonempty, sign, Text.takeDigits_eq_of_native native ▸ taken⟩, digits ▸ native⟩
  · rintro ⟨⟨nonempty, sign, taken⟩, native⟩
    exact ⟨nonempty, sign, (Text.takeDigits_eq_of_native (by rwa [taken])).trans taken⟩

theorem Text.IsForeignLiteral.not_literal (foreign : t.IsForeignLiteral) : wholeNumeral? asciiDigit t = none := by
  obtain ⟨n, whole, foreign⟩ := foreign
  refine Option.eq_none_iff_forall_ne_some.mpr fun m whole' => ?_
  obtain ⟨same, native⟩ := wholeNumeral?_asciiDigit_iff.mp whole'
  cases whole.symm.trans same
  exact native foreign

theorem wholeNumeral?_eq_of_native (native : ¬ t.IsForeignLiteral) :
    wholeNumeral? numeralDigit t = wholeNumeral? asciiDigit t := by
  refine Option.ext fun n => ?_
  rw [wholeNumeral?_asciiDigit_iff]
  exact ⟨fun whole => ⟨whole, fun foreign => native ⟨n, whole, foreign⟩⟩, And.left⟩

theorem isIntegerNumeral_eq_iff :
    isIntegerNumeral numeralDigit t = isIntegerNumeral asciiDigit t ↔ ¬ t.IsForeignLiteral := by
  unfold isIntegerNumeral
  constructor
  · intro same foreign
    rw [foreign.not_literal] at same
    obtain ⟨n, whole, _⟩ := foreign
    rw [whole] at same
    cases same
  · intro native
    rw [wholeNumeral?_eq_of_native native]

/-- No digit of any script is a letter of the Latin alphabet. -/
theorem isAlpha_of_numeralDigit {c : Char} (isDigit : (numeralDigit c).isSome = true) : c.isAlpha = false := by
  have zeros : ∀ z ∈ zeroDigits, z = 0x30 ∨ 0x660 ≤ z := by decide
  simp only [numeralDigit, decimalDigit, Option.isSome_map, List.find?_isSome, Bool.and_eq_true, decide_eq_true_eq]
    at isDigit
  obtain ⟨z, mem, low, high⟩ := isDigit
  have places : c.toNat < 58 ∨ 0x660 ≤ c.toNat := by
    rcases zeros z mem with rfl | great <;> omega
  refine Bool.eq_false_iff.mpr fun alpha => ?_
  have letters : 65 ≤ c.toNat ∧ c.toNat ≤ 122 := by
    rcases Bool.or_eq_true_iff.mp alpha with upper | lower
    · obtain ⟨low, high⟩ : 65 ≤ c.toNat ∧ c.toNat ≤ 90 := of_decide_eq_true upper
      omega
    · have bounds : (decide (97 ≤ c.toNat) && decide (c.toNat ≤ 122)) = true := lower
      simp only [Bool.and_eq_true, decide_eq_true_eq] at bounds
      omega
  omega

/-- A literal does not start like a text that surely starts with no number. -/
theorem startsWithoutNumber_of_literal (whole : wholeNumeral? numeralDigit t = some n) :
    startsWithoutNumber t = false := by
  obtain ⟨nonempty, -, taken⟩ := IntegerNumeral.read_eq_some_iff.mp (wholeNumeral?_eq_some_iff.mp whole)
  unfold Text.takeSign at taken
  split at taken
  · rfl
  · rfl
  · cases t with
    | nil => exact absurd (Prod.mk.inj taken).1.symm nonempty
    | cons s t =>
        cases s with
        | byte b => rfl
        | char c =>
            refine isAlpha_of_numeralDigit (Option.isSome_iff_ne_none.mpr fun none => nonempty ?_)
            simp only [Text.takeDigits, none] at taken
            exact (Prod.mk.inj taken).1.symm

theorem readLiteral_eq_iff :
    readLiteral numeralDigit t = readLiteral asciiDigit t ↔ ¬ t.IsForeignLiteral := by
  unfold readLiteral
  constructor
  · intro same foreign
    rw [foreign.not_literal] at same
    obtain ⟨n, whole, _⟩ := foreign
    simp only [whole, startsWithoutNumber_of_literal whole, Bool.false_eq_true, if_false] at same
    unfold IntegerNumeral.readValue at same
    split at same
    · simp only [bind, Except.bind] at same
      split at same <;> cases same
    · cases same
  · intro native
    rw [← wholeNumeral?_eq_of_native native]
    cases whole : wholeNumeral? numeralDigit t with
    | none => rfl
    | some n =>
        simp only [IntegerNumeral.readValue_eq_of_native fun foreign => native ⟨n, whole, foreign⟩]

end Literals

/-! ### Casts -/

namespace IntegerNumeral

/-- How many digits of a numeral count towards its length: those after the zeros that start it. -/
def significant (n : IntegerNumeral) : Nat := (n.digits.dropWhile (· = '0')).length

/-- What a numeral that starts the text `t` is cast to. -/
def cast (digit : DigitClass) (t : Text) (n : IntegerNumeral) : Except Failure Bigint :=
  if maxBigintDigits < n.significant then .error (.discard (.integerPrefix t))
  else do
    match Bigint.ofInt? (← n.readValue digit) with
    | some b => .ok b
    | none => .error (.discard (.integerPrefix t))

theorem cast_eq (digit : DigitClass) (t : Text) (n : IntegerNumeral) :
    n.cast digit t =
      if maxBigintDigits < n.significant then .error (.discard (.integerPrefix t))
      else if n.digits.length ≤ maxDigits then
        if inRange : IsBigint (n.value digit) then .ok ⟨_, inRange⟩ else .error (.discard (.integerPrefix t))
      else .error (.tooManyDigits n.digits.length) := by
  unfold cast readValue
  split
  · rfl
  · split
    · exact bigintOrDiscard_eq _ _
    · rfl

section Cast

variable {t : Text} {n : IntegerNumeral}

theorem cast_eq_ok_iff {b : Bigint} :
    n.cast digit t = .ok b ↔
      n.significant ≤ maxBigintDigits ∧ n.digits.length ≤ maxDigits ∧ n.value digit = b.val := by
  rw [cast_eq]
  constructor
  · intro cast
    split at cast
    · cases cast
    · rename_i short
      split at cast
      · rename_i few
        split at cast
        · cases cast
          exact ⟨Nat.le_of_not_lt short, few, rfl⟩
        · cases cast
      · cases cast
  · rintro ⟨short, few, value⟩
    have inRange : IsBigint (n.value digit) := value ▸ b.inRange
    rw [if_neg (Nat.not_lt.mpr short), if_pos few, dif_pos inRange]
    simp only [value]

theorem cast_eq_discard_iff :
    n.cast digit t = .error (.discard (.integerPrefix t)) ↔
      maxBigintDigits < n.significant ∨ n.digits.length ≤ maxDigits ∧ ¬ IsBigint (n.value digit) := by
  rw [cast_eq]
  split
  · rename_i long
    simp [long]
  · rename_i short
    split
    · rename_i few
      split <;> simp [*]
    · rename_i many
      simp [short, many]

theorem cast_eq_tooManyDigits (notOk : ∀ b, n.cast digit t ≠ .ok b)
    (notDiscarded : n.cast digit t ≠ .error (.discard (.integerPrefix t))) :
    n.cast digit t = .error (.tooManyDigits n.digits.length) := by
  rw [Ne, cast_eq_discard_iff, not_or, not_and, not_not] at notDiscarded
  obtain ⟨short, inRange⟩ := notDiscarded
  have many : ¬ n.digits.length ≤ maxDigits := fun few =>
    notOk ⟨_, inRange few⟩ (cast_eq_ok_iff.mpr ⟨Nat.le_of_not_lt short, few, rfl⟩)
  rw [cast_eq, if_neg short, if_neg many]

/-- The part of a numeral before its first foreign digit. -/
def native (n : IntegerNumeral) : IntegerNumeral := ⟨n.negative, n.digits.takeWhile Char.isDigit⟩

theorem native_append (n : IntegerNumeral) : n.native.digits ++ n.digits.dropWhile Char.isDigit = n.digits :=
  List.takeWhile_append_dropWhile

theorem isDigit_of_mem_native {c : Char} (mem : c ∈ n.native.digits) : c.isDigit = true := List.mem_takeWhile_imp mem

/-- A foreign numeral goes on after the part before its first foreign digit. -/
theorem dropWhile_ne_nil (foreign : n.IsForeign) : n.digits.dropWhile Char.isDigit ≠ [] := fun nothing =>
  not_isForeign_iff.mpr (List.dropWhile_eq_nil_iff.mp nothing) foreign

theorem significant_native (n : IntegerNumeral) :
    n.native.significant = 0 ∨ n.native.significant + (n.digits.dropWhile Char.isDigit).length = n.significant := by
  have whole : n.significant =
      ((n.native.digits ++ n.digits.dropWhile Char.isDigit).dropWhile (· = '0')).length := by
    rw [native_append, significant]
  rw [whole, List.dropWhile_append]
  split
  · rename_i zeros
    exact .inl (List.length_eq_zero_iff.mpr (List.isEmpty_iff.mp zeros))
  · exact .inr List.length_append.symm

theorem natAbs_value_native_lt (n : IntegerNumeral) :
    (n.native.value asciiDigit).natAbs < tenTo n.native.significant := by
  rw [value, natAbs_signed, ← DigitClass.value_dropWhile_zeros]
  exact DigitClass.value_asciiDigit_lt _

theorem natAbs_value_native (n : IntegerNumeral) :
    (n.native.value asciiDigit).natAbs = numeralDigit.value n.native.digits := by
  rw [DigitClass.value_eq_of_native fun c => isDigit_of_mem_native]
  exact natAbs_signed _ _

/-- A numeral that is cast to zero has nothing else before its first foreign digit. -/
theorem cast_native_of_zero (zero : n.cast numeralDigit t = .ok 0) : n.native.cast asciiDigit t = .ok 0 := by
  obtain ⟨short, few, value⟩ := cast_eq_ok_iff.mp zero
  have significant := n.significant_native
  have lengths : n.native.digits.length ≤ n.digits.length := by
    rw [← n.native_append, List.length_append]
    exact Nat.le_add_right _ _
  have values : numeralDigit.value n.native.digits ≤ (n.value numeralDigit).natAbs := by
    rw [IntegerNumeral.value, natAbs_signed]
    calc numeralDigit.value n.native.digits
        ≤ numeralDigit.value (n.native.digits ++ n.digits.dropWhile Char.isDigit) := numeralDigit.value_le_append _ _
      _ = numeralDigit.value n.digits := by rw [native_append]
  refine cast_eq_ok_iff.mpr ⟨by omega, Nat.le_trans lengths few, Int.natAbs_eq_zero.mp ?_⟩
  rw [natAbs_value_native]
  rw [value] at values
  exact Nat.le_zero.mp values

/-- Where the part before its first foreign digit is out of range, a numeral has more digits than are in range. -/
theorem cast_of_native_discarded (foreign : n.IsForeign)
    (discarded : n.native.cast asciiDigit t = .error (.discard (.integerPrefix t))) :
    n.cast numeralDigit t = .error (.discard (.integerPrefix t)) := by
  have longer : 0 < (n.digits.dropWhile Char.isDigit).length := List.length_pos_iff.mpr (dropWhile_ne_nil foreign)
  have significant := n.significant_native
  have digits : maxBigintDigits ≤ n.native.significant := by
    rcases cast_eq_discard_iff.mp discarded with long | ⟨_, outOfRange⟩
    · exact long.le
    · refine Nat.le_of_not_lt fun fewer => outOfRange ?_
      have below : (n.native.value asciiDigit).natAbs < tenTo (maxBigintDigits - 1) :=
        Nat.lt_of_lt_of_le n.natAbs_value_native_lt (Nat.pow_le_pow_right (by decide) (Nat.le_sub_one_of_lt fewer))
      have limit : tenTo (maxBigintDigits - 1) = 1000000000000000000 := by decide
      simp only [IsBigint, minBigint, maxBigint]
      omega
  have some : 0 < maxBigintDigits := by decide
  exact cast_eq_discard_iff.mpr (.inl (by omega))

/-- What a foreign numeral is cast to is what the part before its first foreign digit is cast to where both are zero,
or where that part is out of range already. -/
theorem cast_eq_native_iff (foreign : n.IsForeign) :
    n.cast numeralDigit t = n.native.cast asciiDigit t ↔
      n.cast numeralDigit t = .ok 0 ∨ n.native.cast asciiDigit t = .error (.discard (.integerPrefix t)) := by
  have longer := dropWhile_ne_nil foreign
  constructor
  · intro same
    by_cases discarded : n.native.cast asciiDigit t = .error (.discard (.integerPrefix t))
    · exact .inr discarded
    · by_cases cast : ∃ b, n.native.cast asciiDigit t = .ok b
      · obtain ⟨b, cast⟩ := cast
        -- The number is at least ten times that of its part, and so both are zero where they are the same.
        have value := (cast_eq_ok_iff.mp (same.trans cast)).2.2
        have part := (cast_eq_ok_iff.mp cast).2.2
        have grown : 10 * (n.native.value asciiDigit).natAbs ≤ (n.value numeralDigit).natAbs := by
          rw [natAbs_value_native, IntegerNumeral.value, natAbs_signed]
          calc 10 * numeralDigit.value n.native.digits
              ≤ numeralDigit.value (n.native.digits ++ n.digits.dropWhile Char.isDigit) :=
                numeralDigit.mul_value_le_append _ longer
            _ = numeralDigit.value n.digits := by rw [native_append]
        rw [value, part] at grown
        have zero : b.val = 0 := by omega
        refine .inl (cast_eq_ok_iff.mpr ?_)
        obtain ⟨short, few, _⟩ := cast_eq_ok_iff.mp (same.trans cast)
        exact ⟨short, few, value.trans zero⟩
      · have notOk : ∀ b, n.native.cast asciiDigit t ≠ .ok b := fun b is => cast ⟨b, is⟩
        have part := cast_eq_tooManyDigits notOk discarded
        have whole := cast_eq_tooManyDigits (same ▸ notOk) (same ▸ discarded)
        rw [whole, part] at same
        have lengths : n.digits.length = n.native.digits.length := by
          injection same with same
          injection same
        rw [← n.native_append, List.length_append] at lengths
        exact absurd (List.length_eq_zero_iff.mp (by omega)) longer
  · rintro (zero | discarded)
    · rw [zero, cast_native_of_zero zero]
    · rw [discarded, cast_of_native_discarded foreign discarded]

end Cast

end IntegerNumeral

section Reading

variable {n : IntegerNumeral} {t rest : Text}

theorem readSigned_of_read (noNewline : t.skipBlanks.head? ≠ some (.char '\n'))
    (found : IntegerNumeral.read digit t.skipBlanks = some (n, rest)) : readSigned digit t = n.cast digit t := by
  simp only [readSigned, if_neg noNewline, found]
  rfl

/-- Over `0` to `9` the part of a numeral before its first foreign digit is cast, if there is any. -/
theorem readSigned_asciiDigit (noNewline : t.skipBlanks.head? ≠ some (.char '\n'))
    (found : IntegerNumeral.read numeralDigit t.skipBlanks = some (n, rest)) :
    readSigned asciiDigit t = n.native.cast asciiDigit t := by
  obtain ⟨_, sign, taken⟩ := IntegerNumeral.read_eq_some_iff.mp found
  have native := Text.takeDigits_asciiDigit t.skipBlanks.takeSign.2
  rw [taken] at native
  by_cases empty : n.native.digits = []
  · have none : IntegerNumeral.read asciiDigit t.skipBlanks = none := by
      rw [IntegerNumeral.read_eq_none_iff, native]
      exact empty
    have zero : n.native.cast asciiDigit t = .ok 0 := by
      refine IntegerNumeral.cast_eq_ok_iff.mpr ?_
      rw [IntegerNumeral.significant, IntegerNumeral.value, empty]
      exact ⟨by decide, by decide, by cases n.native.negative <;> rfl⟩
    simp only [readSigned, if_neg noNewline, none, zero]
  · exact readSigned_of_read noNewline (IntegerNumeral.read_eq_some_iff.mpr ⟨empty, sign, native⟩)

/-- A text that starts with a newline starts with no numeral. -/
theorem Text.StartsForeignInteger.noNewline (foreign : t.StartsForeignInteger) : t.head? ≠ some (.char '\n') := by
  obtain ⟨n, rest, found, _⟩ := foreign
  intro newline
  cases t with
  | nil => cases newline
  | cons s t =>
      cases newline
      have digit : numeralDigit '\n' = none := by decide
      simp [IntegerNumeral.read, takeSign, takeDigits, digit] at found

/-- A text is cast to the same integer over both classes, or refused over both for the same reason, unless it starts
with a foreign numeral after its blanks. Then it is where it is cast to zero, or where the part of the numeral before
its first foreign digit is out of range. -/
theorem readSigned_eq_iff :
    readSigned numeralDigit t = readSigned asciiDigit t ↔
      ¬ t.skipBlanks.StartsForeignInteger ∨ readSigned numeralDigit t = .ok 0 ∨
        readSigned asciiDigit t = .error (.discard (.integerPrefix t)) := by
  by_cases foreign : t.skipBlanks.StartsForeignInteger
  · have noNewline := foreign.noNewline
    obtain ⟨n, rest, found, isForeign⟩ := foreign
    have starts : t.skipBlanks.StartsForeignInteger := ⟨n, rest, found, isForeign⟩
    rw [readSigned_of_read noNewline found, readSigned_asciiDigit noNewline found,
      IntegerNumeral.cast_eq_native_iff isForeign]
    simp [starts]
  · simp only [foreign, not_false_eq_true, true_or, iff_true]
    simp only [readSigned, ← IntegerNumeral.read_eq_iff.mpr foreign]
    cases found : IntegerNumeral.read numeralDigit t.skipBlanks with
    | none => rfl
    | some result =>
        obtain ⟨n, rest⟩ := result
        simp only [IntegerNumeral.readValue_eq_of_native fun isForeign => foreign ⟨n, rest, found, isForeign⟩]

end Reading

/-- Texts are read as where `0` to `9` are the only digits, but for those with a foreign numeral where the reading looks
for one. Of these a cast agrees where it gives zero, or where the part of the numeral before its first foreign digit
is out of range; and neither a literal nor the reading of one agrees. -/
theorem readings_eq_asciiDigit_iff (t : Text) :
    (readSigned numeralDigit t = readSigned asciiDigit t ↔
      ¬ t.skipBlanks.StartsForeignInteger ∨ readSigned numeralDigit t = .ok 0 ∨
        readSigned asciiDigit t = .error (.discard (.integerPrefix t))) ∧
    (DecimalNumeral.read numeralDigit t.skipBlanks = DecimalNumeral.read asciiDigit t.skipBlanks ↔
      ¬ t.skipBlanks.StartsForeignDecimal) ∧
    (¬ t.skipBlanks.StartsForeignDecimal → readDouble numeralDigit t = readDouble asciiDigit t) ∧
    (isIntegerNumeral numeralDigit t = isIntegerNumeral asciiDigit t ↔ ¬ t.IsForeignLiteral) ∧
    (readLiteral numeralDigit t = readLiteral asciiDigit t ↔ ¬ t.IsForeignLiteral) :=
  ⟨readSigned_eq_iff, DecimalNumeral.read_eq_iff, readDouble_eq_of_native, isIntegerNumeral_eq_iff, readLiteral_eq_iff⟩

/-- A foreign digit that stands after the numeral makes no difference. -/
theorem readings_after_numeral :
    let t : Text := " 1.5x٣"
    ¬ t.skipBlanks.StartsForeignDecimal ∧ readDouble numeralDigit t = readDouble asciiDigit t := by
  intro t
  have native : ¬ t.skipBlanks.StartsForeignDecimal := (readings_eq_asciiDigit_iff t).2.1.mp rfl
  exact ⟨native, (readings_eq_asciiDigit_iff t).2.2.1 native⟩

/-- The Arabic digit three is read as the number three, where over `0` to `9` it is no number. -/
theorem readings_of_foreign_digit :
    let three : Text := "٣"
    (readSigned numeralDigit three = .ok ⟨3, by decide⟩ ∧ readSigned asciiDigit three = .ok 0) ∧
      (readDouble numeralDigit three = .ok ⟨false, 6755399441055744, 1023⟩ ∧
        readDouble asciiDigit three = .ok (.zero false)) ∧
      (isIntegerNumeral numeralDigit three = true ∧ isIntegerNumeral asciiDigit three = false) ∧
      readLiteral numeralDigit three = .ok ⟨3, by decide⟩ ∧
      readLiteral asciiDigit three = .error (.discard (.unknownReading three)) := by
  refine ⟨⟨rfl, rfl⟩, ⟨?_, rfl⟩, ⟨rfl, rfl⟩, rfl, rfl⟩
  decide +kernel

end PivotOracle
