import PivotOracle.Proofs.Evaluation
import PivotOracle.Proofs.Numeral

/-!
# Limits of readings

Most texts that have no certain numeric reading are discarded. A few break a reading off instead: their
digits are too many to be read, or their exponent is beyond what can be rounded. Here is which texts
these are, and that they are all that keeps a prediction from an answer.

* `Text.BreaksOff` — a text breaks off a reading of a dialect.
* `readSigned_yields`, `readDouble_yields`, `readLiteral_yields` — a reading that is not discarded
  fails only where its text breaks it off.
* `not_breaksOff_ofInt` — the text of a signed 64-bit integer breaks off no reading.
* `Expr.obstacle_of_evaluate` — evaluations fail by a discard, by a fault of an expression that is not
  well formed, or where a text breaks off a reading.
* `Expr.WellFormed.no_fault` — a well-formed expression has no fault.
* `Expr.predict_error_iff` — predictions over a set of texts fail, otherwise than by a fault, exactly
  as texts of the set break off readings.
-/

namespace PivotOracle

/-- A text breaks off a reading of a dialect with a failure. -/
inductive Text.BreaksOff : Dialect → Text → Failure → Prop where
  /-- MySQL reads no integer of too many digits. Where more of them follow the zeros that start it than
  a signed 64-bit integer has, the text is discarded unread. -/
  | longInteger {t rest : Text} {n : IntegerNumeral}
      (read : IntegerNumeral.read numeralDigit t.skipBlanks = some (n, rest))
      (padded : (n.digits.dropWhile (· = '0')).length ≤ maxBigintDigits)
      (long : maxDigits < n.digits.length) :
      BreaksOff .mysql t (.tooManyDigits n.digits.length)
  /-- MySQL reads no double with an exponent beyond what can be rounded. Where it is beyond those of
  exact decimals too, the text is discarded. -/
  | hugeDouble {t rest : Text} {n : DecimalNumeral}
      (read : DecimalNumeral.read numeralDigit t.skipBlanks = some (n, rest))
      (exact : (Decimal.ofNumeral numeralDigit n).isExact = true)
      (nonzero : (Decimal.ofNumeral numeralDigit n).coefficient ≠ 0)
      (huge : maxRoundedExponent <
        ((Decimal.ofNumeral numeralDigit n).rounded comparedDigits).adjusted) :
      BreaksOff .mysql t .decimalOverflow
  /-- SQLite reads no integer literal that has too many digits. -/
  | longLiteral {t : Text} {n : IntegerNumeral} (whole : wholeNumeral? numeralDigit t = some n)
      (long : maxDigits < n.digits.length) :
      BreaksOff .sqlite t (.tooManyDigits n.digits.length)

/-- A reading is broken off by the number of digits or by the exponent. -/
theorem Text.BreaksOff.kind {d : Dialect} {t : Text} {f : Failure} (h : t.BreaksOff d f) :
    (∃ n, f = .tooManyDigits n) ∨ f = .decimalOverflow := by
  cases h with
  | longInteger => exact .inl ⟨_, rfl⟩
  | hugeDouble => exact .inr rfl
  | longLiteral => exact .inl ⟨_, rfl⟩

/-! ### Readings -/

/-- Failures of reading a text: a discard, or that the text breaks the reading off. -/
def Text.ReadFailure (d : Dialect) (t : Text) (f : Failure) : Prop :=
  (∃ reason, f = .discard reason) ∨ t.BreaksOff d f

theorem readFailure_discard (d : Dialect) (t : Text) (reason : Discard) :
    t.ReadFailure d (.discard reason) :=
  .inl ⟨reason, rfl⟩

theorem IntegerNumeral.readValue_yields {F : Failure → Prop} (n : IntegerNumeral)
    (long : maxDigits < n.digits.length → F (.tooManyDigits n.digits.length)) :
    Yields F (fun _ => True) (n.readValue numeralDigit) := by
  unfold IntegerNumeral.readValue
  split
  · trivial
  · rename_i notShort
    exact long (Nat.lt_of_not_le notShort)

/-- A number that is read is one in range, or the text is discarded. -/
theorem bigintOrDiscard_yields {F : Failure → Prop} (n : Int) (reason : Discard)
    (discard : F (.discard reason)) :
    Yields F (fun _ => True) (match Bigint.ofInt? n with
      | some b => (.ok b : Except Failure Bigint)
      | none => .error (.discard reason)) := by
  cases Bigint.ofInt? n with
  | some b => trivial
  | none => exact discard

theorem readSigned_yields (t : Text) :
    Yields (t.ReadFailure .mysql) (fun _ => True) (readSigned numeralDigit t) := by
  simp only [readSigned]
  split
  · exact readFailure_discard _ _ _
  · cases read : IntegerNumeral.read numeralDigit t.skipBlanks with
    | none => trivial
    | some result =>
        obtain ⟨n, rest⟩ := result
        simp only
        split
        · exact readFailure_discard _ _ _
        · rename_i padded
          refine (n.readValue_yields fun long => ?_).bind fun value _ =>
            bigintOrDiscard_yields value _ (readFailure_discard _ _ _)
          exact .inr (.longInteger read (Nat.le_of_not_lt padded) long)

theorem readDouble_yields (t : Text) :
    Yields (t.ReadFailure .mysql) (fun _ => True) (readDouble numeralDigit t) := by
  simp only [readDouble]
  split
  · exact readFailure_discard _ _ _
  · cases read : DecimalNumeral.read numeralDigit t.skipBlanks with
    | none => trivial
    | some result =>
        obtain ⟨n, rest⟩ := result
        simp only [doubleOf]
        split
        · exact readFailure_discard _ _ _
        · rename_i isExact
          split
          · rename_i huge
            exact .inr (.hugeDouble read (by simpa using isExact) huge.1 huge.2)
          · split
            · exact readFailure_discard _ _ _
            · split
              · trivial
              · exact readFailure_discard _ _ _

theorem readLiteral_yields (t : Text) :
    Yields (t.ReadFailure .sqlite) (fun _ => True) (readLiteral numeralDigit t) := by
  unfold readLiteral
  cases whole : wholeNumeral? numeralDigit t with
  | some n =>
      refine (n.readValue_yields fun long => .inr (.longLiteral whole long)).bind fun value _ =>
        bigintOrDiscard_yields value _ (readFailure_discard _ _ _)
  | none =>
      simp only
      split
      · trivial
      · exact readFailure_discard _ _ _

/-! ### Closed sets -/

/-- The text of a signed 64-bit integer breaks off no reading. -/
theorem not_breaksOff_ofInt (d : Dialect) (n : Bigint) (f : Failure) :
    ¬ (Text.ofInt n.val).BreaksOff d f := by
  have digits := length_toDigits_natAbs_le n
  have few : maxBigintDigits ≤ maxDigits := by decide
  intro broken
  cases broken with
  | longInteger read padded long =>
      rw [skipBlanks_ofInt, IntegerNumeral.read_ofInt numeralDigit_hasAscii] at read
      cases read
      exact absurd (Nat.le_trans digits few) (Nat.not_le.mpr long)
  | hugeDouble read isExact nonzero huge =>
      rw [skipBlanks_ofInt, DecimalNumeral.read_ofInt numeralDigit_hasAscii] at read
      cases read
      have short : digitCount n.val.natAbs ≤ comparedDigits := Nat.le_trans digits (by decide)
      rw [Decimal.ofNumeral_ofInt numeralDigit_hasAscii,
        Decimal.rounded_eq_self (by decide) short] at huge
      simp only [Decimal.adjusted, digitCount, maxRoundedExponent, maxBigintDigits] at huge digits
      omega
  | longLiteral whole long =>
      rw [wholeNumeral?_ofInt] at whole
      cases whole
      exact absurd (Nat.le_trans digits few) (Nat.not_le.mpr long)

/-- Failures that include all discards are not left where they include the failures that texts break
readings off with. -/
theorem closed_of_discard {d : Dialect} {F : Failure → Prop}
    (discard : ∀ reason, F (.discard reason)) :
    Closed d (fun t => ∀ f, t.BreaksOff d f → F f) F := by
  have allowed {t : Text} (breaks : ∀ f, t.BreaksOff d f → F f) (f : Failure) :
      t.ReadFailure d f → F f := by
    rintro (⟨reason, rfl⟩ | broken)
    · exact discard reason
    · exact breaks f broken
  refine ⟨fun n f broken => absurd broken (not_breaksOff_ofInt d n f),
    fun reason _ => discard reason, ?_, ?_, ?_⟩
  · rintro rfl t breaks
    exact (readSigned_yields t).weaken (allowed breaks)
  · rintro rfl t breaks
    exact (readDouble_yields t).weaken (allowed breaks)
  · rintro rfl t breaks
    exact (readLiteral_yields t).weaken (allowed breaks)

/-! ### Evaluation -/

namespace Expr

/-- Why the evaluation of an expression may fail: by a discard; by a fault, if the expression is not well
formed; or because a text that it holds breaks off a reading. -/
inductive Obstacle (d : Dialect) (e : Expr) : Failure → Prop where
  | discard (reason : Discard) : Obstacle d e (.discard reason)
  | fault (g : Fault) (illFormed : ¬ e.WellFormed d) : Obstacle d e (.fault g)
  | text {t : Text} {f : Failure} (held : e.Holds t) (safe : requireSafeStart (.text t) = .ok ())
      (broken : t.BreaksOff d f) : Obstacle d e f

/-- The evaluation of an expression fails for one of these reasons alone. -/
theorem obstacle_of_evaluate {d : Dialect} {e : Expr} {f : Failure}
    (failed : e.evaluate d = .error f) : e.Obstacle d f := by
  have admitted : e.Admitted d (fun t => ∀ f, t.BreaksOff d f → e.Obstacle d f) (e.Obstacle d) := by
    refine ⟨fun t held safe f broken => .text held safe broken, fun n g evaluated own => ?_⟩
    exact .fault g fun wellFormed => (wellFormed n evaluated.within).no_ownFault g own
  have outcome := evaluate_yields (closed_of_discard .discard) admitted
  rw [failed] at outcome
  exact outcome

/-- The evaluation of a well-formed expression has no fault, and no integer in it leaves the signed
64-bit range unnoticed: a result out of range is a discard. -/
theorem WellFormed.no_fault {d : Dialect} {e : Expr} (wellFormed : e.WellFormed d) :
    (∀ g, e.evaluate d ≠ .error (.fault g)) ∧ ∀ n, e.evaluate d ≠ .error (.outOfRange n) := by
  constructor
  · intro g failed
    cases obstacle_of_evaluate failed with
    | fault _ illFormed => exact illFormed wellFormed
    | text held safe broken => cases broken
  · intro n failed
    cases obstacle_of_evaluate failed with
    | text held safe broken => cases broken

/-- A sum that leaves the range, of a column and a text that is cast, in a call. -/
theorem no_fault_of_sum_out_of_range :
    let largest := Expr.column ⟨"c", "t", .integer⟩ (.int ⟨maxBigint, by decide⟩)
    let sum := Expr.arithmetic .add largest (.cast (.constant (.text "1x")) .signed)
    let e := Expr.call .coalesce [.constant .null, sum]
    e.WellFormed .mysql ∧ (∀ g, e.evaluate .mysql ≠ .error (.fault g)) ∧
      ∀ n, e.evaluate .mysql ≠ .error (.outOfRange n) := by
  intro largest sum e
  have constant (v : Scalar) : (Expr.constant v).WellFormed .mysql :=
    wellFormed_iff.mpr ⟨trivial, nofun⟩
  have column : largest.WellFormed .mysql := wellFormed_iff.mpr ⟨nofun, nofun⟩
  have cast : (Expr.cast (.constant (.text "1x")) .signed).WellFormed .mysql :=
    wellFormed_iff.mpr ⟨trivial, by simpa [parts] using constant _⟩
  have summed : sum.WellFormed .mysql :=
    wellFormed_iff.mpr ⟨trivial, by simpa [sum, parts] using ⟨column, cast⟩⟩
  have call : e.WellFormed .mysql :=
    wellFormed_iff.mpr ⟨⟨_, rfl, rfl⟩, by simpa [e, parts] using ⟨constant _, summed⟩⟩
  exact ⟨call, call.no_fault⟩

/-! ### Predictions over a set of texts -/

section Constants

variable {d : Dialect} {t : Text} {f : Failure}

theorem evaluate_constant_of_safe (safe : requireSafeStart (.text t) = .ok ()) :
    (Expr.constant (.text t)).evaluate d = .ok (.text t) := by
  rw [evaluate, safe]
  rfl

theorem head?_skipBlanks_of_safe (safe : requireSafeStart (.text t) = .ok ()) :
    t.skipBlanks.head? ≠ some (.char '\n') := by
  intro newline
  simp [requireSafeStart, newline] at safe

/-- A text of too many digits breaks off a cast to an integer. -/
theorem evaluate_cast_of_breaksOff {count : Nat} (safe : requireSafeStart (.text t) = .ok ())
    (broken : t.BreaksOff d (.tooManyDigits count)) :
    (Expr.cast (.constant (.text t)) .signed).evaluate d = .error (.tooManyDigits count) := by
  rw [evaluate, evaluate_constant_of_safe safe]
  cases broken with
  | @longInteger _ rest n read padded long =>
      have failed : readSigned numeralDigit t = .error (.tooManyDigits n.digits.length) := by
        simp only [readSigned, if_neg (head?_skipBlanks_of_safe safe), read,
          if_neg (Nat.not_lt.mpr padded), IntegerNumeral.readValue, if_neg (Nat.not_le.mpr long)]
        rfl
      change (do return Scalar.int (← readSigned numeralDigit t)) = _
      rw [failed]
      rfl
  | @longLiteral _ n whole long =>
      have failed : readLiteral numeralDigit t = .error (.tooManyDigits n.digits.length) := by
        simp only [readLiteral, whole, IntegerNumeral.readValue, if_neg (Nat.not_le.mpr long)]
        rfl
      change (do return Scalar.int (← readLiteral numeralDigit t)) = _
      rw [failed]
      rfl

/-- A text with an exponent beyond what can be rounded breaks off a negation. -/
theorem evaluate_not_of_breaksOff (safe : requireSafeStart (.text t) = .ok ())
    (broken : t.BreaksOff d .decimalOverflow) :
    (Expr.unary .not (.constant (.text t))).evaluate d = .error .decimalOverflow := by
  rw [evaluate, evaluate_constant_of_safe safe]
  cases broken with
  | hugeDouble read isExact nonzero huge =>
      have failed : readDouble numeralDigit t = .error .decimalOverflow := by
        simp [readDouble, if_neg (head?_skipBlanks_of_safe safe), read, doubleOf, isExact, nonzero,
          huge]
      simp only [UnaryOperator.apply, truthOf, Scalar.isTrue, failed, bind, Except.bind]

/-- An expression whose only part is a constant holds the text of that constant alone. -/
theorem eq_of_holds_of_parts {e : Expr} (carries : e.stored? = none)
    (parts : e.parts = [.constant (.text t)]) {s : Text} (held : e.Holds s) : s = t := by
  rcases holds_iff.mp held with own | ⟨p, mem, inner⟩
  · rw [carries] at own
    cases own
  · rw [parts, List.mem_singleton] at mem
    subst mem
    cases holds_constant_iff.mp inner
    rfl

/-- A text that breaks off a reading breaks off the evaluation of an expression that holds no other
text. -/
theorem exists_evaluate_eq_error (safe : requireSafeStart (.text t) = .ok ())
    (broken : t.BreaksOff d f) :
    ∃ e : Expr, (∀ s, e.Holds s → s = t) ∧ e.evaluate d = .error f := by
  rcases broken.kind with ⟨count, rfl⟩ | rfl
  · exact ⟨_, fun _ => eq_of_holds_of_parts rfl rfl, evaluate_cast_of_breaksOff safe broken⟩
  · exact ⟨_, fun _ => eq_of_holds_of_parts rfl rfl, evaluate_not_of_breaksOff safe broken⟩

end Constants

/-- Over a set of texts, predictions fail with the failures that texts of the set break readings off
with, apart from faults. A text that no evaluation goes past, because of how it starts, has no part in
that. -/
theorem predict_error_iff (d : Dialect) (S : Text → Prop) (f : Failure) :
    (∃ e : Expr, (∀ t, e.Holds t → S t) ∧ e.predict d = .error f ∧ ∀ g, f ≠ .fault g) ↔
      ∃ t, S t ∧ requireSafeStart (.text t) = .ok () ∧ t.BreaksOff d f := by
  constructor
  · rintro ⟨e, texts, failed, notFault⟩
    obtain ⟨failed, notDiscard⟩ := predict_eq_error_iff.mp failed
    cases obstacle_of_evaluate failed with
    | discard reason => exact absurd rfl (notDiscard reason)
    | fault g => exact absurd rfl (notFault g)
    | text held safe broken => exact ⟨_, texts _ held, safe, broken⟩
  · rintro ⟨t, member, safe, broken⟩
    obtain ⟨e, alone, failed⟩ := exists_evaluate_eq_error safe broken
    refine ⟨e, fun s held => alone s held ▸ member, predict_eq_error_iff.mpr ⟨failed, ?_⟩, ?_⟩
    · rintro reason rfl
      cases broken
    · rintro g rfl
      cases broken

/-- A text of zeros alone, if they are too many, breaks off a cast. -/
theorem predict_cast_zeros {count : Nat} (long : maxDigits < count) :
    (Expr.cast (.constant (.text (List.replicate count (.char '0')))) .signed).predict .mysql =
      .error (.tooManyDigits count) := by
  have blanks : Text.skipBlanks (List.replicate count (.char '0')) =
      List.replicate count (.char '0') := by
    simp [Text.skipBlanks]
  have safe : requireSafeStart (.text (List.replicate count (.char '0'))) = .ok () := by
    simp [requireSafeStart, blanks, List.head?_replicate]
  have nonempty : List.replicate count '0' ≠ [] := by
    simp only [ne_eq, List.replicate_eq_nil_iff]
    omega
  have read := IntegerNumeral.read_append numeralDigit_hasAscii false nonempty
    (fun c mem => by rw [List.eq_of_mem_replicate mem]; rfl) (Text.stopsDigits_nil numeralDigit)
  simp only [Text.ofSign, Bool.false_eq_true, if_false, List.nil_append, List.append_nil,
    List.map_replicate] at read
  rw [← blanks] at read
  have broken := Text.BreaksOff.longInteger read (by simp) (by simpa using long)
  rw [List.length_replicate] at broken
  exact predict_eq_error_iff.mpr ⟨evaluate_cast_of_breaksOff safe broken, by simp⟩

/-- A zero of too many digits breaks off a cast, and a power of ten beyond what can be rounded breaks
off a negation: neither prediction is an answer or a fault. -/
theorem predict_breaks_off :
    let zeros := Expr.constant (.text (List.replicate 4301 (.char '0')))
    (Expr.cast zeros .signed).predict .mysql = .error (.tooManyDigits 4301) ∧
      (Expr.unary .not (.constant (.text "1e1000000"))).predict .mysql = .error .decimalOverflow := by
  constructor
  · exact predict_cast_zeros (by decide)
  · rfl

end Expr

end PivotOracle
