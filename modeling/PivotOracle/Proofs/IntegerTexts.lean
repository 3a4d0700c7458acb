import PivotOracle.Proofs.Numeral
import PivotOracle.Proofs.Outcome

/-!
# Texts of integers

An integer may be written with a plus, with zeros before its digits, after blanks and before a text that starts with
no digit. However it is written, its text is read as that integer where it is a signed 64-bit one, and is discarded
where it is not: the limit on digits that count and the check of the range come to the same.

* `Text.IsSignOf`, `paddedDigits`, `Text.ofPadded` — the ways to write an integer.
* `lt_length_significant_iff` — how many digits of a written integer count.
* `IntegerNumeral.read_ofPadded`, `IntegerNumeral.value_ofPadded` — the numeral that an integer is written as.
* `readSigned_ofPadded`, `readLiteral_ofPadded` — the readings of the two dialects.
* `read_ofPadded_exact` — both readings, and the operands of arithmetic.
-/

namespace PivotOracle

/-! ### Written integers -/

/-- What an integer may be written with as its sign: a minus if it is negative, and else a plus or nothing. -/
inductive Text.IsSignOf (n : Int) : Text → Prop where
  | minus (negative : n < 0) : IsSignOf n [.char '-']
  | plus (nonnegative : 0 ≤ n) : IsSignOf n [.char '+']
  | none (nonnegative : 0 ≤ n) : IsSignOf n []

/-- The digits of a number after so many zeros. -/
def paddedDigits (zeros n : Nat) : List Char := List.replicate zeros '0' ++ Nat.toDigits 10 n

/-- The text of an integer with a sign, and with so many zeros before its digits. -/
def Text.ofPadded (sign : Text) (zeros : Nat) (n : Int) : Text :=
  sign ++ (paddedDigits zeros n.natAbs).map .char

/-- A text of spaces and tabs alone. -/
def Text.IsBlanks (t : Text) : Prop := ∀ s ∈ t, s = .char ' ' ∨ s = .char '\t'

/-- What is dropped of a text is a run of symbols, up to one that is kept. -/
theorem dropWhile_run {α : Type} {p : α → Bool} {run rest : List α} (dropped : ∀ x ∈ run, p x = true)
    (kept : ∀ x, rest.head? = some x → p x = false) : (run ++ rest).dropWhile p = rest := by
  rw [List.dropWhile_append_of_pos dropped]
  cases rest with
  | nil => rfl
  | cons x rest => exact List.dropWhile_cons_of_neg (Bool.eq_false_iff.mp (kept x rfl))

/-! ### Digits -/

theorem paddedDigits_ne_nil (zeros n : Nat) : paddedDigits zeros n ≠ [] :=
  List.append_ne_nil_of_right_ne_nil _ Nat.toDigits_ne_nil

theorem isDigit_of_mem_paddedDigits {zeros n : Nat} {c : Char} (mem : c ∈ paddedDigits zeros n) :
    c.isDigit = true := by
  rcases List.mem_append.mp mem with zero | digit
  · rw [List.eq_of_mem_replicate zero]
    rfl
  · exact isDigit_of_mem_toDigits digit

/-- Zeros before digits do not change their value. -/
theorem DigitClass.HasAscii.value_paddedDigits {digit : DigitClass} (ascii : digit.HasAscii) (zeros n : Nat) :
    digit.value (paddedDigits zeros n) = n := by
  induction zeros with
  | zero => exact ascii.value_toDigits n
  | succ zeros ih =>
      have zero : digit '0' = some 0 := ascii '0' rfl
      have dropped : digit.value (paddedDigits (zeros + 1) n) = digit.value (paddedDigits zeros n) := by
        rw [paddedDigits, List.replicate_succ, List.cons_append, value, List.foldl_cons, zero]
        rfl
      exact dropped.trans ih

/-- The digits of a number that count are all its own, however many zeros stand before them; zero has none. -/
theorem dropWhile_paddedDigits (zeros n : Nat) :
    (paddedDigits zeros n).dropWhile (· = '0') = if n = 0 then [] else Nat.toDigits 10 n := by
  have zero : ∀ c ∈ List.replicate zeros '0', decide (c = '0') = true :=
    fun c mem => decide_eq_true (List.eq_of_mem_replicate mem)
  split
  · rename_i isZero
    subst isZero
    rw [paddedDigits, List.dropWhile_append_of_pos zero]
    rfl
  · rename_i nonzero
    refine dropWhile_run zero fun c head => decide_eq_false ?_
    rintro rfl
    exact head?_toDigits_ne (Nat.pos_of_ne_zero nonzero) head

/-- More digits of a number count than a signed 64-bit integer has if the number is that great. -/
theorem lt_length_significant_iff (zeros n : Nat) :
    maxBigintDigits < ((paddedDigits zeros n).dropWhile (· = '0')).length ↔ tenTo maxBigintDigits ≤ n := by
  rw [dropWhile_paddedDigits]
  split
  · rename_i zero
    subst zero
    decide
  · have positive : 0 < maxBigintDigits := by decide
    have short := Nat.length_toDigits_le_iff (n := n) (b := 10) (by decide) positive
    exact Nat.not_le.symm.trans ((not_congr short).trans Nat.not_lt)

/-! ### Numerals -/

section Written

variable {digit : DigitClass} {n : Int} {sign rest : Text}

/-- An integer with a sign is a numeral, up to a text that starts with no digit. -/
theorem IntegerNumeral.read_ofPadded (ascii : digit.HasAscii) (signed : sign.IsSignOf n) (zeros : Nat)
    (stop : rest.StopsDigits digit) :
    read digit (Text.ofPadded sign zeros n ++ rest) =
      some (⟨decide (n < 0), paddedDigits zeros n.natAbs⟩, rest) := by
  have nonempty := paddedDigits_ne_nil zeros n.natAbs
  have digits (c : Char) : c ∈ paddedDigits zeros n.natAbs → c.isDigit = true := isDigit_of_mem_paddedDigits
  rw [Text.ofPadded, List.append_assoc]
  cases signed with
  | minus negative =>
      rw [decide_eq_true negative]
      exact read_append ascii true nonempty digits stop
  | plus nonnegative =>
      rw [decide_eq_false (Int.not_lt.mpr nonnegative), ← read_append ascii false nonempty digits stop, read, read,
        Text.takeSign_append false nonempty digits]
      rfl
  | none nonnegative =>
      rw [decide_eq_false (Int.not_lt.mpr nonnegative)]
      exact read_append ascii false nonempty digits stop

theorem IntegerNumeral.value_ofPadded (ascii : digit.HasAscii) (n : Int) (zeros : Nat) :
    value digit ⟨decide (n < 0), paddedDigits zeros n.natAbs⟩ = n := by
  rw [value, ascii.value_paddedDigits]
  exact signed_natAbs n

/-- The whole text of an integer is a numeral. -/
theorem wholeNumeral?_ofPadded (signed : sign.IsSignOf n) (zeros : Nat) :
    wholeNumeral? numeralDigit (Text.ofPadded sign zeros n) =
      some ⟨decide (n < 0), paddedDigits zeros n.natAbs⟩ := by
  have read := IntegerNumeral.read_ofPadded numeralDigit_hasAscii signed zeros (Text.stopsDigits_nil _)
  rw [List.append_nil] at read
  rw [wholeNumeral?, read]

/-! ### Blanks -/

/-- The text of an integer starts with a sign or a digit. -/
theorem head?_ofPadded (signed : sign.IsSignOf n) (zeros : Nat) (rest : Text) :
    ∃ c, (Text.ofPadded sign zeros n ++ rest).head? = some (.char c) ∧ (c = '-' ∨ c = '+' ∨ c.isDigit = true) := by
  rw [Text.ofPadded, List.append_assoc]
  cases signed with
  | minus negative => exact ⟨'-', rfl, .inl rfl⟩
  | plus nonnegative => exact ⟨'+', rfl, .inr (.inl rfl)⟩
  | none nonnegative =>
      cases digits : paddedDigits zeros n.natAbs with
      | nil => exact absurd digits (paddedDigits_ne_nil _ _)
      | cons c more =>
          have mem : c ∈ paddedDigits zeros n.natAbs := digits ▸ List.mem_cons_self
          exact ⟨c, rfl, .inr (.inr (isDigit_of_mem_paddedDigits mem))⟩

/-- Blanks are skipped up to the text of an integer, which starts with no newline. -/
theorem skipBlanks_ofPadded {blanks : Text} (blank : blanks.IsBlanks) (signed : sign.IsSignOf n) (zeros : Nat)
    (rest : Text) :
    (blanks ++ (Text.ofPadded sign zeros n ++ rest)).skipBlanks = Text.ofPadded sign zeros n ++ rest ∧
      (Text.ofPadded sign zeros n ++ rest).head? ≠ some (.char '\n') := by
  obtain ⟨c, head, start⟩ := head?_ofPadded signed zeros rest
  have visible : c ≠ ' ' ∧ c ≠ '\t' ∧ c ≠ '\n' := by
    rcases start with rfl | rfl | isDigit
    · decide
    · decide
    · refine ⟨?_, ?_, ?_⟩ <;> rintro rfl <;> cases isDigit
  constructor
  · refine dropWhile_run (fun s mem => by simpa using blank s mem) fun s first => ?_
    cases head.symm.trans first
    simp [visible]
  · simp [head, visible]

end Written

/-! ### Readings -/

/-- An integer that is cast to a signed 64-bit one is that one, or out of range. -/
theorem bigintOrDiscard_eq (n : Int) (reason : Discard) :
    (match Bigint.ofInt? n with
      | some b => (.ok b : Except Failure Bigint)
      | none => .error (.discard reason)) =
      if inRange : IsBigint n then .ok ⟨n, inRange⟩ else .error (.discard reason) := by
  by_cases inRange : IsBigint n
  · rw [dif_pos inRange, Bigint.ofInt?_val ⟨n, inRange⟩]
  · have none : Bigint.ofInt? n = none := dif_neg inRange
    rw [dif_neg inRange, none]

/-- An integer of more digits than a signed 64-bit one has is out of range. -/
theorem not_isBigint_of_le {n : Int} (great : tenTo maxBigintDigits ≤ n.natAbs) : ¬ IsBigint n := by
  have limit : tenTo maxBigintDigits = 10000000000000000000 := by decide
  simp only [IsBigint, minBigint, maxBigint]
  omega

section Readings

variable {n : Int} {sign blanks rest : Text} {zeros : Nat}

/-- The digits of an integer, if they are not too many, are read as that integer. -/
theorem readValue_ofPadded (few : (paddedDigits zeros n.natAbs).length ≤ maxDigits) :
    IntegerNumeral.readValue numeralDigit ⟨decide (n < 0), paddedDigits zeros n.natAbs⟩ = .ok n := by
  rw [IntegerNumeral.readValue, if_pos few, IntegerNumeral.value_ofPadded numeralDigit_hasAscii]

/-- MySQL discards an integer of more digits than a signed 64-bit one has, before it reads any of them. -/
theorem readSigned_of_great (blank : blanks.IsBlanks) (signed : sign.IsSignOf n)
    (stop : rest.StopsDigits numeralDigit) (great : tenTo maxBigintDigits ≤ n.natAbs) :
    readSigned numeralDigit (blanks ++ (Text.ofPadded sign zeros n ++ rest)) =
      .error (.discard (.integerPrefix (blanks ++ (Text.ofPadded sign zeros n ++ rest)))) := by
  obtain ⟨unblanked, noNewline⟩ := skipBlanks_ofPadded blank signed zeros rest
  have long := (lt_length_significant_iff zeros n.natAbs).mpr great
  simp only [readSigned, unblanked, if_neg noNewline,
    IntegerNumeral.read_ofPadded numeralDigit_hasAscii signed zeros stop, if_pos long]

/-- MySQL reads an integer after blanks and before a text that starts with no digit. -/
theorem readSigned_ofPadded (blank : blanks.IsBlanks) (signed : sign.IsSignOf n)
    (stop : rest.StopsDigits numeralDigit) (few : (paddedDigits zeros n.natAbs).length ≤ maxDigits) :
    readSigned numeralDigit (blanks ++ (Text.ofPadded sign zeros n ++ rest)) =
      if inRange : IsBigint n then .ok ⟨n, inRange⟩
      else .error (.discard (.integerPrefix (blanks ++ (Text.ofPadded sign zeros n ++ rest)))) := by
  by_cases great : tenTo maxBigintDigits ≤ n.natAbs
  · rw [dif_neg (not_isBigint_of_le great), readSigned_of_great blank signed stop great]
  · obtain ⟨unblanked, noNewline⟩ := skipBlanks_ofPadded blank signed zeros rest
    have short := mt (lt_length_significant_iff zeros n.natAbs).mp great
    simp only [readSigned, unblanked, if_neg noNewline,
      IntegerNumeral.read_ofPadded numeralDigit_hasAscii signed zeros stop, if_neg short, readValue_ofPadded few]
    exact bigintOrDiscard_eq n _

/-- SQLite reads an integer that is a whole text. -/
theorem readLiteral_ofPadded (signed : sign.IsSignOf n)
    (few : (paddedDigits zeros n.natAbs).length ≤ maxDigits) :
    readLiteral numeralDigit (Text.ofPadded sign zeros n) =
      if inRange : IsBigint n then .ok ⟨n, inRange⟩
      else .error (.discard (.readAsReal (Text.ofPadded sign zeros n))) := by
  simp only [readLiteral, wholeNumeral?_ofPadded signed, readValue_ofPadded few]
  exact bigintOrDiscard_eq n _

/-- An operand of SQLite that is an integer literal is read as one. -/
theorem arithmeticOperand_sqlite_of_literal {t : Text} (literal : isIntegerNumeral numeralDigit t = true) :
    arithmeticOperand .sqlite (.text t) = (do return (← readLiteral numeralDigit t).val) := by
  simp [arithmeticOperand, literal]

/-- An operand of MySQL that is an integer literal after its blanks is read as in a cast, and must be exact as a
double. -/
theorem arithmeticOperand_mysql_of_literal {t : Text}
    (literal : isIntegerNumeral numeralDigit t.skipBlanks = true) :
    arithmeticOperand .mysql (.text t) = (do
      let b ← readSigned numeralDigit t
      if b.val.natAbs ≤ maxExactDouble then return b.val else .error (.discard (.inexactOperand (.text t)))) := by
  simp only [arithmeticOperand, literal, ← Nat.not_le, ite_not]
  rfl

theorem isIntegerNumeral_ofPadded (signed : sign.IsSignOf n) (zeros : Nat) :
    isIntegerNumeral numeralDigit (Text.ofPadded sign zeros n) = true := by
  rw [isIntegerNumeral, wholeNumeral?_ofPadded signed]
  rfl

theorem arithmeticOperand_sqlite_ofPadded (signed : sign.IsSignOf n)
    (few : (paddedDigits zeros n.natAbs).length ≤ maxDigits) :
    arithmeticOperand .sqlite (.text (Text.ofPadded sign zeros n)) =
      if IsBigint n then .ok n else .error (.discard (.readAsReal (Text.ofPadded sign zeros n))) := by
  rw [arithmeticOperand_sqlite_of_literal (isIntegerNumeral_ofPadded signed zeros), readLiteral_ofPadded signed few]
  by_cases inRange : IsBigint n
  · rw [dif_pos inRange, if_pos inRange]
    rfl
  · rw [dif_neg inRange, if_neg inRange]
    rfl

/-- The integers that are exact as doubles for certain are signed 64-bit ones. -/
theorem isBigint_of_natAbs_le {n : Int} (small : n.natAbs ≤ maxExactDouble) : IsBigint n := by
  simp only [IsBigint, minBigint, maxBigint, maxExactDouble] at *
  omega

theorem arithmeticOperand_mysql_ofPadded (signed : sign.IsSignOf n)
    (few : (paddedDigits zeros n.natAbs).length ≤ maxDigits) :
    arithmeticOperand .mysql (.text (Text.ofPadded sign zeros n)) =
      if n.natAbs ≤ maxExactDouble then .ok n
      else if IsBigint n then .error (.discard (.inexactOperand (.text (Text.ofPadded sign zeros n))))
      else .error (.discard (.integerPrefix (Text.ofPadded sign zeros n))) := by
  have noBlanks : Text.IsBlanks [] := nofun
  have unblanked := (skipBlanks_ofPadded noBlanks signed zeros []).1
  have read := readSigned_ofPadded noBlanks signed (Text.stopsDigits_nil _) few
  rw [List.nil_append, List.append_nil] at unblanked read
  have literal : isIntegerNumeral numeralDigit (Text.ofPadded sign zeros n).skipBlanks = true := by
    rw [unblanked, isIntegerNumeral_ofPadded signed]
  rw [arithmeticOperand_mysql_of_literal literal, read]
  by_cases inRange : IsBigint n
  · rw [dif_pos inRange, if_pos inRange]
    rfl
  · rw [dif_neg inRange, if_neg inRange, if_neg (mt isBigint_of_natAbs_le inRange)]
    rfl

end Readings

/-- The text of an integer `n`, after blanks and with a sign and zeros before its digits, of which there are no more
than are read, and before a text that starts with no digit: cast to an integer by the rules of MySQL it is `n` if that
is a signed 64-bit integer, and else discarded. Where nothing stands around it, SQLite reads it so too; and an operand
of arithmetic is taken as `n` by both dialects, or discarded, by MySQL already where `n` is beyond the magnitudes up to
which every integer is a double. -/
theorem read_ofPadded_exact (n : Int) {sign blanks rest : Text} {zeros : Nat} (blank : blanks.IsBlanks)
    (signed : sign.IsSignOf n) (few : (paddedDigits zeros n.natAbs).length ≤ maxDigits)
    (stop : rest.StopsDigits numeralDigit) :
    let t := Text.ofPadded sign zeros n
    readSigned numeralDigit (blanks ++ (t ++ rest)) =
        (if inRange : IsBigint n then .ok ⟨n, inRange⟩
        else .error (.discard (.integerPrefix (blanks ++ (t ++ rest))))) ∧
      readLiteral numeralDigit t =
        (if inRange : IsBigint n then .ok ⟨n, inRange⟩ else .error (.discard (.readAsReal t))) ∧
      arithmeticOperand .sqlite (.text t) =
        (if IsBigint n then .ok n else .error (.discard (.readAsReal t))) ∧
      arithmeticOperand .mysql (.text t) =
        if n.natAbs ≤ maxExactDouble then .ok n
        else if IsBigint n then .error (.discard (.inexactOperand (.text t)))
        else .error (.discard (.integerPrefix t)) :=
  ⟨readSigned_ofPadded blank signed stop few, readLiteral_ofPadded signed few,
    arithmeticOperand_sqlite_ofPadded signed few, arithmeticOperand_mysql_ofPadded signed few⟩

/-- The least integer after blanks and zeros and before an exponent, and its magnitude, which is out of range. -/
theorem read_ofPadded_exact_limits :
    Text.IsBlanks " \t" ∧ Text.StopsDigits numeralDigit "e5" ∧
      Text.IsSignOf (-9223372036854775808) "-" ∧ Text.IsSignOf 9223372036854775808 "+" ∧
      (paddedDigits 2 9223372036854775808).length ≤ maxDigits ∧
      readSigned numeralDigit " \t-009223372036854775808e5" = .ok ⟨-9223372036854775808, by decide⟩ ∧
      readLiteral numeralDigit "-009223372036854775808" = .ok ⟨-9223372036854775808, by decide⟩ ∧
      readSigned numeralDigit " \t+009223372036854775808e5" =
        .error (.discard (.integerPrefix " \t+009223372036854775808e5")) ∧
      arithmeticOperand .sqlite (.text "-009223372036854775808") = .ok (-9223372036854775808) ∧
      arithmeticOperand .mysql (.text "+009223372036854775808") =
        .error (.discard (.integerPrefix "+009223372036854775808")) := by
  have blank : Text.IsBlanks " \t" := by
    simp [Text.IsBlanks, Text.ofString]
  have stop : Text.StopsDigits numeralDigit "e5" := by
    rintro c ⟨⟩
    rfl
  have minus : Text.IsSignOf (-9223372036854775808) "-" := .minus (by decide)
  have plus : Text.IsSignOf 9223372036854775808 "+" := .plus (by decide)
  have few : (paddedDigits 2 9223372036854775808).length ≤ maxDigits := by decide
  obtain ⟨least, leastLiteral, leastOperand, -⟩ := read_ofPadded_exact _ blank minus few stop
  obtain ⟨great, -, -, greatOperand⟩ := read_ofPadded_exact _ blank plus few stop
  exact ⟨blank, stop, minus, plus, few, least, leastLiteral, great, leastOperand, greatOperand⟩

end PivotOracle
