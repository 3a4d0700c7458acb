import Mathlib.Data.List.TakeWhile
import PivotOracle.Proofs.IntegerTexts
import PivotOracle.Proofs.Lexeme

/-!
# Foreign digits

The readings of texts are written over a digit class, and they are used with the decimal digits of every script, where
engines have `0` to `9` alone. The two classes differ in the numerals that have a foreign digit, one of another
script: over `0` to `9` such a numeral ends before that digit.

* `Text.takeDigits_asciiDigit` — a run of digits is cut before its first foreign digit.
* `IntegerNumeral.read_eq_iff`, `DecimalNumeral.read_eq_iff` — the same numeral starts a text over both classes unless
  it is foreign.
* `IntegerNumeral.value_eq_of_native`, `Decimal.ofNumeral_eq_of_native` — and it stands for the same number.
* `DigitClass.mul_value_le_append` — how great a number is, by its digits.
-/

namespace PivotOracle

variable {digit : DigitClass}

/-! ### Digits -/

@[simp] theorem isSome_asciiDigit (c : Char) : (asciiDigit c).isSome = c.isDigit := by
  by_cases isDigit : c.isDigit = true
  · rw [asciiDigit_hasAscii c isDigit, isDigit]
    rfl
  · have outside : ¬ ('0' ≤ c ∧ c ≤ '9') := fun between => isDigit (isDigit_iff.mpr between)
    rw [asciiDigit, if_neg outside]
    exact (Bool.eq_false_iff.mpr isDigit).symm

/-- A run of digits and what follows it are the text. -/
theorem Text.takeDigits_append_eq (digit : DigitClass) (t : Text) :
    (t.takeDigits digit).1.map .char ++ (t.takeDigits digit).2 = t := by
  fun_induction Text.takeDigits digit t with
  | case1 c t isDigit digits rest taken ih =>
      rw [taken] at ih
      exact congrArg (Symbol.char c :: ·) ih
  | case2 => rfl
  | case3 => rfl

/-- Of a run of digits, those before the first foreign one are read where `0` to `9` are the digits. -/
theorem Text.takeDigits_asciiDigit (t : Text) :
    t.takeDigits asciiDigit =
      ((t.takeDigits numeralDigit).1.takeWhile Char.isDigit,
        ((t.takeDigits numeralDigit).1.dropWhile Char.isDigit).map .char ++ (t.takeDigits numeralDigit).2) := by
  induction t with
  | nil => rfl
  | cons s t ih =>
      cases s with
      | byte b => rfl
      | char c =>
          simp only [takeDigits, isSome_asciiDigit]
          by_cases isDigit : c.isDigit = true
          · simp [isDigit, numeralDigit_hasAscii c isDigit, ih]
          · have run := takeDigits_append_eq numeralDigit t
            cases foreign : numeralDigit c <;> simp [isDigit, run]

theorem Text.takeDigits_eq_of_native {t : Text}
    (native : ∀ c ∈ (t.takeDigits numeralDigit).1, c.isDigit = true) :
    t.takeDigits asciiDigit = t.takeDigits numeralDigit := by
  rw [takeDigits_asciiDigit, List.takeWhile_eq_self_iff.mpr native, List.dropWhile_eq_nil_iff.mpr native]
  rfl

theorem Text.isSome_of_mem_takeDigits {t : Text} {c : Char} (mem : c ∈ (t.takeDigits digit).1) :
    (digit c).isSome = true := by
  fun_induction Text.takeDigits digit t with
  | case1 c' t isDigit digits rest taken ih =>
      rcases List.mem_cons.mp mem with rfl | mem
      · exact isDigit
      · exact ih (taken ▸ mem)
  | case2 => cases mem
  | case3 => cases mem

namespace DigitClass

theorem value_le_append (digit : DigitClass) (digits more : List Char) :
    digit.value digits ≤ digit.value (digits ++ more) := by
  induction more using List.reverseRecOn with
  | nil => rw [List.append_nil]
  | append_singleton more c ih =>
      rw [← List.append_assoc, value_concat]
      omega

/-- A number grows at least tenfold where digits follow it. -/
theorem mul_value_le_append (digit : DigitClass) (digits : List Char) {more : List Char} (longer : more ≠ []) :
    10 * digit.value digits ≤ digit.value (digits ++ more) := by
  obtain ⟨more, c, rfl⟩ := (List.eq_nil_or_concat more).resolve_left longer
  have grown := digit.value_le_append digits more
  rw [List.concat_eq_append, ← List.append_assoc, value_concat]
  omega

/-- Zeros that start a number do not count. -/
theorem value_dropWhile_zeros (digits : List Char) :
    asciiDigit.value (digits.dropWhile (· = '0')) = asciiDigit.value digits := by
  induction digits with
  | nil => rfl
  | cons c digits ih =>
      by_cases zero : c = '0'
      · rw [List.dropWhile_cons_of_pos (by simpa using zero), ih, zero]
        rfl
      · rw [List.dropWhile_cons_of_neg (by simpa using zero)]

end DigitClass

/-! ### Numerals -/

namespace IntegerNumeral

/-- A numeral is foreign where one of its digits is none of `0` to `9`. -/
def IsForeign (n : IntegerNumeral) : Prop := ∃ c ∈ n.digits, c.isDigit = false

theorem not_isForeign_iff {n : IntegerNumeral} : ¬ n.IsForeign ↔ ∀ c ∈ n.digits, c.isDigit = true := by
  simp [IsForeign]

variable {n : IntegerNumeral} {t rest : Text}

theorem read_eq_none_iff : read digit t = none ↔ (t.takeSign.2.takeDigits digit).1 = [] := by
  simp only [read]
  split
  · rename_i taken
    simp [taken]
  · rename_i digits rest nonempty taken
    simp only [taken, reduceCtorEq, false_iff]
    exact fun empty => nonempty empty

theorem read_eq_some_iff :
    read digit t = some (n, rest) ↔
      n.digits ≠ [] ∧ n.negative = t.takeSign.1 ∧ t.takeSign.2.takeDigits digit = (n.digits, rest) := by
  simp only [read]
  split
  · rename_i taken
    simp only [taken, reduceCtorEq, Prod.mk.injEq, false_iff]
    rintro ⟨nonempty, _, empty, _⟩
    exact nonempty empty.symm
  · rename_i digits after nonempty taken
    simp only [taken, Option.some.injEq, Prod.mk.injEq]
    constructor
    · rintro ⟨rfl, rfl⟩
      exact ⟨nonempty, rfl, rfl, rfl⟩
    · rintro ⟨_, sign, rfl, rfl⟩
      exact ⟨by rw [← sign], rfl⟩

theorem isSome_of_read (found : read digit t = some (n, rest)) : ∀ c ∈ n.digits, (digit c).isSome = true := by
  obtain ⟨_, _, taken⟩ := read_eq_some_iff.mp found
  exact fun c mem => Text.isSome_of_mem_takeDigits (t := t.takeSign.2) (by rwa [taken])

end IntegerNumeral

/-- A text starts with an integer numeral that is foreign. -/
def Text.StartsForeignInteger (t : Text) : Prop :=
  ∃ n rest, IntegerNumeral.read numeralDigit t = some (n, rest) ∧ n.IsForeign

/-- The same integer numeral starts a text over both classes unless it is foreign. -/
theorem IntegerNumeral.read_eq_iff {t : Text} :
    read numeralDigit t = read asciiDigit t ↔ ¬ t.StartsForeignInteger := by
  constructor
  · rintro same ⟨n, rest, found, c, mem, foreign⟩
    have digit := isSome_of_read (same ▸ found) c mem
    rw [isSome_asciiDigit, foreign] at digit
    cases digit
  · intro native
    cases found : read numeralDigit t with
    | none =>
        have empty := read_eq_none_iff.mp found
        refine (read_eq_none_iff.mpr ?_).symm
        rw [Text.takeDigits_eq_of_native (by rw [empty]; exact nofun), empty]
    | some result =>
        obtain ⟨n, rest⟩ := result
        obtain ⟨nonempty, sign, taken⟩ := read_eq_some_iff.mp found
        have all : ∀ c ∈ n.digits, c.isDigit = true :=
          not_isForeign_iff.mp fun foreign => native ⟨n, rest, found, foreign⟩
        refine (read_eq_some_iff.mpr ⟨nonempty, sign, ?_⟩).symm
        rw [Text.takeDigits_eq_of_native (by rwa [taken]), taken]

namespace DecimalNumeral

/-- A numeral is foreign where one of its digits is none of `0` to `9`. -/
def IsForeign (n : DecimalNumeral) : Prop :=
  (∃ c ∈ n.whole ++ n.fraction, c.isDigit = false) ∨ ∃ e ∈ n.exponent, e.IsForeign

/-- The digits after a point, if one stands there, and the text after them. -/
def takeFraction (digit : DigitClass) : Text → List Char × Text
  | .char '.' :: t => Text.takeDigits digit t
  | t => ([], t)

variable {n : DecimalNumeral} {e : IntegerNumeral} {t rest : Text} {whole fraction : List Char}

theorem readDigits_eq (digit : DigitClass) (t : Text) :
    readDigits digit t =
      if (t.takeDigits digit).1 = [] ∧ (takeFraction digit (t.takeDigits digit).2).1 = [] then none
      else some ((t.takeDigits digit).1, takeFraction digit (t.takeDigits digit).2) := by
  simp only [readDigits]
  split
  · rename_i rest taken
    rw [taken, takeFraction]
    split
    · rename_i fraction
      simp [fraction]
    · rename_i nonempty fraction
      rw [if_neg fun empty => nonempty (by simpa [fraction] using empty.2), fraction]
  · rename_i rest noPoint taken
    simp [taken, takeFraction]
  · rename_i nonempty taken
    rw [taken, if_neg fun empty => nonempty empty.1]
    rfl
  · rename_i nonempty noPoint taken
    rw [taken, if_neg fun empty => nonempty empty.1, takeFraction]
    exact noPoint

theorem takeFraction_eq_of_native (native : ∀ c ∈ (takeFraction numeralDigit t).1, c.isDigit = true) :
    takeFraction asciiDigit t = takeFraction numeralDigit t := by
  unfold takeFraction at native ⊢
  split
  · exact Text.takeDigits_eq_of_native native
  · rfl

theorem isSome_of_mem_takeFraction {c : Char} (mem : c ∈ (takeFraction digit t).1) : (digit c).isSome = true := by
  unfold takeFraction at mem
  split at mem
  · exact Text.isSome_of_mem_takeDigits mem
  · cases mem

theorem isSome_of_readDigits (found : readDigits digit t = some (whole, fraction, rest)) :
    ∀ c ∈ whole ++ fraction, (digit c).isSome = true := by
  rw [readDigits_eq] at found
  split at found
  · cases found
  · rw [Option.some.injEq, Prod.mk.injEq] at found
    obtain ⟨rfl, after⟩ := found
    intro c mem
    rcases List.mem_append.mp mem with mem | mem
    · exact Text.isSome_of_mem_takeDigits mem
    · exact isSome_of_mem_takeFraction (by rwa [after])

theorem readDigits_eq_of_native
    (native : ∀ whole fraction rest, readDigits numeralDigit t = some (whole, fraction, rest) →
      ∀ c ∈ whole ++ fraction, c.isDigit = true) :
    readDigits asciiDigit t = readDigits numeralDigit t := by
  have all : ∀ c ∈ (t.takeDigits numeralDigit).1 ++ (takeFraction numeralDigit (t.takeDigits numeralDigit).2).1,
      c.isDigit = true := by
    by_cases empty : (t.takeDigits numeralDigit).1 = [] ∧
        (takeFraction numeralDigit (t.takeDigits numeralDigit).2).1 = []
    · rw [empty.1, empty.2]
      exact nofun
    · exact native _ _ _ ((readDigits_eq numeralDigit t).trans (if_neg empty))
  obtain ⟨whole, fraction⟩ := List.forall_mem_append.mp all
  rw [readDigits_eq, readDigits_eq, Text.takeDigits_eq_of_native whole, takeFraction_eq_of_native fraction]

theorem isSome_of_readExponent (found : readExponent digit t = some (e, rest)) :
    ∀ c ∈ e.digits, (digit c).isSome = true := by
  unfold readExponent at found
  split at found
  · exact IntegerNumeral.isSome_of_read found
  · exact IntegerNumeral.isSome_of_read found
  · cases found

theorem readExponent_eq_of_native
    (native : ∀ e rest, readExponent numeralDigit t = some (e, rest) → ¬ e.IsForeign) :
    readExponent asciiDigit t = readExponent numeralDigit t := by
  unfold readExponent at native ⊢
  split
  · exact (IntegerNumeral.read_eq_iff.mpr fun ⟨e, rest, found, foreign⟩ => native e rest found foreign).symm
  · exact (IntegerNumeral.read_eq_iff.mpr fun ⟨e, rest, found, foreign⟩ => native e rest found foreign).symm
  · rfl

/-- A numeral that is read has its digits and then its exponent, if there is one. -/
theorem read_eq_some (found : read digit t = some (n, rest)) :
    ∃ after, readDigits digit t.takeSign.2 = some (n.whole, n.fraction, after) ∧
      ∀ e ∈ n.exponent, readExponent digit after = some (e, rest) := by
  simp only [read] at found
  split at found
  · cases found
  · rename_i whole fraction after digits
    split at found
    · cases found
      exact ⟨_, digits, by simp⟩
    · rename_i e rest exponent
      cases found
      refine ⟨_, digits, ?_⟩
      rintro _ ⟨⟩
      exact exponent

/-- Where digits are read, a numeral is, and it has the exponent that follows them. -/
theorem read_of_readDigits {after : Text} (digits : readDigits digit t.takeSign.2 = some (whole, fraction, after)) :
    ∃ n rest, read digit t = some (n, rest) ∧ n.whole = whole ∧ n.fraction = fraction ∧
      ∀ e rest, readExponent digit after = some (e, rest) → n.exponent = some e := by
  simp only [read, digits]
  cases exponent : readExponent digit after with
  | none => exact ⟨_, _, rfl, rfl, rfl, by simp⟩
  | some result =>
      refine ⟨_, _, rfl, rfl, rfl, ?_⟩
      rintro e rest ⟨⟩
      rfl

end DecimalNumeral

/-- A text starts with a decimal numeral that is foreign. -/
def Text.StartsForeignDecimal (t : Text) : Prop :=
  ∃ n rest, DecimalNumeral.read numeralDigit t = some (n, rest) ∧ n.IsForeign

/-- The same decimal numeral starts a text over both classes unless it is foreign. -/
theorem DecimalNumeral.read_eq_iff {t : Text} :
    read numeralDigit t = read asciiDigit t ↔ ¬ t.StartsForeignDecimal := by
  constructor
  · rintro same ⟨n, rest, found, foreign⟩
    obtain ⟨after, digits, exponent⟩ := read_eq_some (same ▸ found)
    rcases foreign with ⟨c, mem, foreign⟩ | ⟨e, some, c, mem, foreign⟩
    · have digit := isSome_of_readDigits digits c mem
      rw [isSome_asciiDigit, foreign] at digit
      cases digit
    · have digit := isSome_of_readExponent (exponent e some) c mem
      rw [isSome_asciiDigit, foreign] at digit
      cases digit
  · intro native
    have digits : readDigits asciiDigit t.takeSign.2 = readDigits numeralDigit t.takeSign.2 := by
      refine readDigits_eq_of_native fun whole fraction after found c mem => ?_
      obtain ⟨n, rest, read, rfl, rfl, _⟩ := read_of_readDigits found
      exact Bool.of_not_eq_false fun foreign => native ⟨n, rest, read, .inl ⟨c, mem, foreign⟩⟩
    simp only [read, digits]
    cases found : readDigits numeralDigit t.takeSign.2 with
    | none => rfl
    | some result =>
        obtain ⟨whole, fraction, after⟩ := result
        obtain ⟨n, rest, read, _, _, exponent⟩ := read_of_readDigits found
        have same : readExponent asciiDigit after = readExponent numeralDigit after :=
          readExponent_eq_of_native fun e rest' found foreign =>
            native ⟨n, rest, read, .inr ⟨e, exponent e rest' found, foreign⟩⟩
        simp only [same]

/-! ### Values -/

theorem DigitClass.value_eq_of_native {digits : List Char} (native : ∀ c ∈ digits, c.isDigit = true) :
    numeralDigit.value digits = asciiDigit.value digits :=
  (numeralDigit_hasAscii.value_eq_ofDigitChars native).trans (asciiDigit_hasAscii.value_eq_ofDigitChars native).symm

theorem IntegerNumeral.value_eq_of_native {n : IntegerNumeral} (native : ¬ n.IsForeign) :
    n.value numeralDigit = n.value asciiDigit := by
  rw [value, value, DigitClass.value_eq_of_native (not_isForeign_iff.mp native)]

theorem IntegerNumeral.readValue_eq_of_native {n : IntegerNumeral} (native : ¬ n.IsForeign) :
    n.readValue numeralDigit = n.readValue asciiDigit := by
  rw [readValue, readValue, value_eq_of_native native]

theorem Decimal.ofNumeral_eq_of_native {n : DecimalNumeral} (native : ¬ n.IsForeign) :
    ofNumeral numeralDigit n = ofNumeral asciiDigit n := by
  have digits : ∀ c ∈ n.whole ++ n.fraction, c.isDigit = true := fun c mem =>
    Bool.of_not_eq_false fun foreign => native (.inl ⟨c, mem, foreign⟩)
  have exponent : n.exponent.map (·.value numeralDigit) = n.exponent.map (·.value asciiDigit) :=
    Option.map_congr fun e mem => IntegerNumeral.value_eq_of_native fun foreign => native (.inr ⟨e, mem, foreign⟩)
  rw [ofNumeral, ofNumeral, DigitClass.value_eq_of_native digits, exponent]

end PivotOracle
