import PivotOracle.Proofs.GreatestDouble
import PivotOracle.Proofs.IntegerTexts
import PivotOracle.Proofs.TruthTests

/-!
# Null tests

Whether a value is null does not depend on what its text is read as. The postfix tests ask for the truth value of
their operand all the same, the tests for null among them. So these have a value where the operand has a truth value,
which then says whether it is null; of a text that has none they fail as its reading does. The null-safe comparison
with null looks at null alone, and answers for every value.

* `Text.IsReadable`, `Scalar.HasTruth` — the texts, and the values, that have a truth value in a dialect.
* `exists_readLiteral_iff`, `exists_readDouble_iff` — the readings of the two dialects, by what a text is.
* `isNone_of_truthOf`, `readFailure_of_truthOf` — a truth value tells null from all else; why there may be none.
* `Expr.predict_null_tests` — the tests for null of a value, and the comparison that does without its truth.
-/

namespace PivotOracle

/-! ### Texts that have a truth value -/

/-- A text has a truth value in a dialect. SQLite has one of an integer literal in range that is not too long, and of
a text that surely starts with no number. MySQL has one of a text that starts, after its blanks, with no number or
with one that is neither beyond exact decimals nor, once it is rounded, beyond the greatest double. -/
inductive Text.IsReadable : Dialect → Text → Prop where
  | literal {t : Text} {n : IntegerNumeral} (whole : wholeNumeral? numeralDigit t = some n)
      (short : n.digits.length ≤ maxDigits) (inRange : IsBigint (n.value numeralDigit)) : IsReadable .sqlite t
  | word {t : Text} (noLiteral : wholeNumeral? numeralDigit t = none) (start : startsWithoutNumber t = true) :
      IsReadable .sqlite t
  | noNumber {t : Text} (unread : DecimalNumeral.read numeralDigit t.skipBlanks = none) : IsReadable .mysql t
  | number {t rest : Text} {n : DecimalNumeral}
      (read : DecimalNumeral.read numeralDigit t.skipBlanks = some (n, rest))
      (isExact : (Decimal.ofNumeral numeralDigit n).isExact = true)
      (within : ((Decimal.ofNumeral numeralDigit n).rounded comparedDigits).magnitude ≤ Binary64.maxValue) :
      IsReadable .mysql t

/-- A value has a truth value, possibly the unknown one: only a text may have none. -/
def Scalar.HasTruth (d : Dialect) : Scalar → Prop
  | .text t => t.IsReadable d
  | _ => True

section Readings

variable {d : Dialect} {t : Text} {v : Scalar} {f : Failure}

theorem IntegerNumeral.readValue_eq_ok_iff {n : IntegerNumeral} {i : Int} :
    n.readValue numeralDigit = .ok i ↔ n.digits.length ≤ maxDigits ∧ n.value numeralDigit = i := by
  unfold readValue
  split
  · rename_i short
    simp [short]
  · rename_i long
    simp [long]

/-- SQLite reads the texts that are readable. -/
theorem exists_readLiteral_iff : (∃ b, readLiteral numeralDigit t = .ok b) ↔ t.IsReadable .sqlite := by
  unfold readLiteral
  constructor
  · rintro ⟨b, read⟩
    split at read
    · rename_i n whole
      obtain ⟨i, value, kept⟩ := bind_eq_ok.mp read
      obtain ⟨short, rfl⟩ := IntegerNumeral.readValue_eq_ok_iff.mp value
      have ranged := (bigintOrDiscard_eq _ _).symm.trans kept
      split at ranged
      · rename_i inRange
        exact .literal whole short inRange
      · cases ranged
    · rename_i noLiteral
      split at read
      · rename_i start
        exact .word noLiteral start
      · cases read
  · intro readable
    cases readable with
    | literal whole short inRange =>
        rw [whole]
        exact ⟨_, bind_eq_ok.mpr ⟨_, IntegerNumeral.readValue_eq_ok_iff.mpr ⟨short, rfl⟩,
          (bigintOrDiscard_eq _ _).trans (dif_pos inRange)⟩⟩
    | word noLiteral start =>
        rw [noLiteral]
        exact ⟨0, if_pos start⟩

/-- MySQL reads the texts that are readable, of those that may be the value of an expression. -/
theorem exists_readDouble_iff (safe : requireSafeStart (.text t) = .ok ()) :
    (∃ x, readDouble numeralDigit t = .ok x) ↔ t.IsReadable .mysql := by
  simp only [readDouble, if_neg (Expr.head?_skipBlanks_of_safe safe)]
  constructor
  · rintro ⟨x, read⟩
    split at read
    · rename_i unread
      exact .noNumber unread
    · rename_i n rest found
      obtain ⟨isExact, within⟩ := (doubleOf_eq_ok_iff t _).mp ⟨x, read⟩
      exact .number found isExact within
  · intro readable
    cases readable with
    | noNumber unread =>
        rw [unread]
        exact ⟨_, rfl⟩
    | number found isExact within =>
        rw [found]
        exact (doubleOf_eq_ok_iff t _).mpr ⟨isExact, within⟩

/-- What is made of an outcome is there where the outcome is. -/
theorem exists_bind_pure_eq_ok {α β : Type} {x : Except Failure α} (g : α → β) :
    (∃ b, (do return g (← x) : Except Failure β) = .ok b) ↔ ∃ a, x = .ok a := by
  constructor
  · rintro ⟨b, value⟩
    obtain ⟨a, outcome, -⟩ := bind_eq_ok.mp value
    exact ⟨a, outcome⟩
  · rintro ⟨a, outcome⟩
    exact ⟨g a, bind_eq_ok.mpr ⟨a, outcome, rfl⟩⟩

theorem truthOf_text_mysql (t : Text) :
    truthOf .mysql (.text t) = (do return some (decide ((← readDouble numeralDigit t).significand ≠ 0))) := by
  simp only [truthOf, Scalar.isTrue, bind_assoc, pure_bind]

/-- A value that an expression may have has a truth value unless it is a text that is not readable. -/
theorem exists_truthOf_iff (safe : requireSafeStart v = .ok ()) : (∃ k, truthOf d v = .ok k) ↔ v.HasTruth d := by
  cases v with
  | null => exact iff_of_true ⟨_, rfl⟩ trivial
  | int n => exact iff_of_true ⟨_, rfl⟩ trivial
  | text t =>
      cases d with
      | mysql =>
          rw [truthOf_text_mysql]
          exact (exists_bind_pure_eq_ok _).trans (exists_readDouble_iff safe)
      | sqlite => exact (exists_bind_pure_eq_ok _).trans exists_readLiteral_iff

/-- A text has a truth value that is known, or its reading fails. -/
theorem truthOf_text_yields (d : Dialect) (t : Text) :
    Yields (t.ReadFailure d) (fun k => k.isNone = false) (truthOf d (.text t)) := by
  cases d with
  | mysql =>
      rw [truthOf_text_mysql]
      exact (readDouble_yields t).bind fun _ _ => rfl
  | sqlite => exact (readLiteral_yields t).bind fun _ _ => rfl

/-- A truth value is unknown of null alone. -/
theorem isNone_of_truthOf {k : Kleene} (known : truthOf d v = .ok k) : k.isNone = v.isNull := by
  cases v with
  | null =>
      cases known
      rfl
  | int n =>
      cases known
      rfl
  | text t => exact (truthOf_text_yields d t).of_eq_ok known

/-- Where a value has no truth value, it is a text, and its reading fails. -/
theorem readFailure_of_truthOf (failed : truthOf d v = .error f) : ∃ t, v = .text t ∧ t.ReadFailure d f := by
  cases v with
  | null => cases failed
  | int n => cases failed
  | text t =>
      have reading := truthOf_text_yields d t
      rw [failed] at reading
      exact ⟨t, rfl, reading⟩

end Readings

/-! ### Tests for null -/

namespace Expr

variable {d : Dialect} {e : Expr} {v : Scalar} {f : Failure}

/-- The null-safe comparison with null has a value whatever it is compared with: it says whether that is null. -/
theorem evaluate_nullSafeEq_null (value : e.evaluate d = .ok v) :
    (comparison .nullSafeEq e (constant .null)).evaluate d = .ok (.ofBool v.isNull) := by
  rw [evaluate_comparison value rfl, ComparisonOperator.apply_of_null _ (Bool.or_true _), if_pos rfl]
  exact congrArg (fun b => Except.ok (Scalar.ofBool b)) (Bool.and_true _)

/-- The tests for null of a value that has a truth value. -/
theorem evaluate_null_tests {k : Kleene} (value : e.evaluate d = .ok v) (known : truthOf d v = .ok k) :
    (postfixTest .isNull e).evaluate d = .ok (.ofBool v.isNull) ∧
      (postfixTest .isNotNull e).evaluate d = .ok (.ofBool (!v.isNull)) := by
  have truth : e.truth d = .ok k := bind_eq_ok.mpr ⟨v, value, known⟩
  rw [evaluate_postfixTest, evaluate_postfixTest, truth, ← isNone_of_truthOf known]
  cases k <;> exact ⟨rfl, rfl⟩

/-- Every postfix test of a value that has no truth value fails as the reading of it. -/
theorem evaluate_postfixTest_of_unread (value : e.evaluate d = .ok v) (failed : truthOf d v = .error f)
    (test : PostfixTest) : (postfixTest test e).evaluate d = .error f := by
  have unknown : e.truth d = .error f := bind_eq_error.mpr (.inr ⟨v, value, failed⟩)
  rw [evaluate_postfixTest, unknown]
  rfl

/-- What the tests for null say of an expression that is predicted as a value. Where the value has a truth value, they
say whether it is null, and are each other's complements. Where it has none, it is a text of which the reading fails,
by a discard or otherwise, and every postfix test fails for the same reason, those for null as well. The null-safe
comparison with null says in either case whether the value is null. -/
theorem predict_null_tests (value : e.predict d = .ok (.value v)) :
    (v.HasTruth d →
      (postfixTest .isNull e).predict d = .ok (.value (.ofBool v.isNull)) ∧
      (postfixTest .isNotNull e).predict d = .ok (.value (.ofBool (!v.isNull)))) ∧
    (¬ v.HasTruth d → ∃ t f, v = .text t ∧ t.ReadFailure d f ∧
      ∀ test, (postfixTest test e).evaluate d = .error f) ∧
    (comparison .nullSafeEq e (constant .null)).predict d = .ok (.value (.ofBool v.isNull)) := by
  simp only [predict_eq_value_iff] at value ⊢
  have readable : (∃ k, truthOf d v = .ok k) ↔ v.HasTruth d := exists_truthOf_iff (evaluate_safe value)
  refine ⟨fun hasTruth => ?_, fun noTruth => ?_, evaluate_nullSafeEq_null value⟩
  · obtain ⟨k, known⟩ := readable.mpr hasTruth
    exact evaluate_null_tests value known
  · cases outcome : truthOf d v with
    | ok k => exact absurd (readable.mp ⟨k, outcome⟩) noTruth
    | error f =>
        obtain ⟨t, same, reading⟩ := readFailure_of_truthOf outcome
        exact ⟨t, f, same, reading, evaluate_postfixTest_of_unread value outcome⟩

/-- A text of letters in SQLite, and in MySQL one that starts with a number after a blank. -/
theorem predict_null_tests_readable :
    let letters := constant (.text "abc")
    let number := constant (.text " 7x")
    letters.predict .sqlite = .ok (.value (.text "abc")) ∧ (Scalar.text "abc").HasTruth .sqlite ∧
      (postfixTest .isNull letters).predict .sqlite = .ok (.value (.ofBool false)) ∧
      (postfixTest .isNotNull letters).predict .sqlite = .ok (.value (.ofBool true)) ∧
      number.predict .mysql = .ok (.value (.text " 7x")) ∧ (Scalar.text " 7x").HasTruth .mysql ∧
      (postfixTest .isNull number).predict .mysql = .ok (.value (.ofBool false)) ∧
      (comparison .nullSafeEq number (constant .null)).predict .mysql = .ok (.value (.ofBool false)) := by
  intro letters number
  have word : letters.predict .sqlite = .ok (.value (.text "abc")) := rfl
  have prefixed : number.predict .mysql = .ok (.value (.text " 7x")) := rfl
  have wordTruth : (Scalar.text "abc").HasTruth .sqlite := .word rfl rfl
  have numberTruth : (Scalar.text " 7x").HasTruth .mysql :=
    (exists_truthOf_iff (d := .mysql) rfl).mp ⟨some true, by decide +kernel⟩
  obtain ⟨isNull, isNotNull⟩ := (predict_null_tests word).1 wordTruth
  obtain ⟨answered, -, nullSafe⟩ := predict_null_tests prefixed
  exact ⟨word, wordTruth, isNull, isNotNull, prefixed, numberTruth, (answered numberTruth).1, nullSafe⟩

/-- Texts that are not null, and are not predicted to be so: SQLite may read the first as a number with a fraction, and
MySQL the other two as numbers beyond its doubles, one of which breaks the reading off. -/
theorem predict_null_tests_unread :
    let fraction := constant (.text "1.5")
    let great := constant (.text "1e400")
    let huge := constant (.text "1e1000000")
    fraction.predict .sqlite = .ok (.value (.text "1.5")) ∧
      (postfixTest .isNull fraction).predict .sqlite = .ok (.discarded (.unknownReading "1.5")) ∧
      (postfixTest .isNotNull fraction).predict .sqlite = .ok (.discarded (.unknownReading "1.5")) ∧
      great.predict .mysql = .ok (.value (.text "1e400")) ∧
      (postfixTest .isNull great).predict .mysql = .ok (.discarded (.numericPrefix "1e400")) ∧
      huge.predict .mysql = .ok (.value (.text "1e1000000")) ∧
      (postfixTest .isNotNull huge).predict .mysql = .error .decimalOverflow :=
  ⟨rfl, rfl, rfl, rfl, by decide +kernel, rfl, by decide +kernel⟩

end Expr

end PivotOracle
