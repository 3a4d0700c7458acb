import PivotOracle.Proofs.Compositionality
import PivotOracle.Proofs.ReadingLimits

/-!
# Texts that are read again

A value that is a text may be read as a number by what stands around it, and such a reading is not certain
of a text that starts with a newline or a period after its blanks. No evaluation makes such a text: what is
stored is checked where it is evaluated, an integer as a text starts with a minus or a digit, and all else
passes on texts that it is given. So the check of arguments asks for what every argument has, and no reading
comes upon a newline.

* `readSigned_notAtNewline`, `readDouble_notAtNewline` — a reading gives up at a newline only where there is
  one.
* `Expr.evaluate_ne_leadingNewline` — no evaluation comes to a text that a reading gives up so.
* `Expr.evaluateArguments_eq_evaluateAll` — arguments evaluate as if they were not checked.
* `Expr.evaluate_text_safe` — what the text of a value starts with, and what follows for calls and readings.
-/

namespace PivotOracle

/-! ### Readings that give up at a newline -/

/-- A failure other than that of a reading that gives up at a newline. -/
def Failure.NotAtNewline : Failure → Prop
  | .discard (.leadingNewline _ _) => False
  | _ => True

section Newline

variable {t : Text}

/-- A text that reads the same everywhere starts, after its blanks, with neither a newline nor a period. -/
theorem requireSafeStart_text_eq_ok_iff :
    requireSafeStart (.text t) = .ok () ↔
      t.skipBlanks.head? ≠ some (.char '\n') ∧ t.skipBlanks.head? ≠ some (.char '.') := by
  simp only [requireSafeStart]
  split
  · rename_i unsafeStart
    constructor
    · intro safe
      cases safe
    · intro safe
      exact absurd unsafeStart (not_or.mpr safe)
  · rename_i safe
    exact ⟨fun _ => not_or.mp safe, fun _ => rfl⟩

theorem readSigned_notAtNewline (noNewline : t.skipBlanks.head? ≠ some (.char '\n')) :
    Yields Failure.NotAtNewline (fun _ => True) (readSigned numeralDigit t) := by
  simp only [readSigned, if_neg noNewline]
  cases IntegerNumeral.read numeralDigit t.skipBlanks with
  | none => trivial
  | some result =>
      obtain ⟨n, rest⟩ := result
      simp only
      split
      · trivial
      · refine (n.readValue_yields fun _ => trivial).bind fun value _ => ?_
        exact bigintOrDiscard_yields value _ trivial

theorem readDouble_notAtNewline (noNewline : t.skipBlanks.head? ≠ some (.char '\n')) :
    Yields Failure.NotAtNewline (fun _ => True) (readDouble numeralDigit t) := by
  simp only [readDouble, if_neg noNewline]
  cases DecimalNumeral.read numeralDigit t.skipBlanks with
  | none => trivial
  | some result =>
      obtain ⟨n, rest⟩ := result
      simp only [doubleOf]
      split
      · trivial
      · split
        · trivial
        · split
          · trivial
          · split
            · trivial
            · trivial

/-- SQLite does not look for newlines. -/
theorem readLiteral_notAtNewline (t : Text) :
    Yields Failure.NotAtNewline (fun _ => True) (readLiteral numeralDigit t) := by
  unfold readLiteral
  cases wholeNumeral? numeralDigit t with
  | some n =>
      refine (n.readValue_yields fun _ => trivial).bind fun value _ => ?_
      exact bigintOrDiscard_yields value _ trivial
  | none =>
      simp only
      split
      · trivial
      · trivial

end Newline

/-- Readings of texts that start safely do not give up at a newline, in either dialect. -/
theorem closed_notAtNewline (d : Dialect) :
    Closed d (fun t => requireSafeStart (.text t) = .ok ()) Failure.NotAtNewline := by
  refine ⟨fun n => requireSafeStart_ofInt n.val, ?_, ?_, ?_, ?_⟩
  · intro reason noReading
    cases reason with
    | leadingNewline reading t => cases noReading
    | _ => trivial
  · intro _ t safe
    exact readSigned_notAtNewline (requireSafeStart_text_eq_ok_iff.mp safe).1
  · intro _ t safe
    exact readDouble_notAtNewline (requireSafeStart_text_eq_ok_iff.mp safe).1
  · intro _ t _
    exact readLiteral_notAtNewline t

/-! ### Evaluations -/

namespace Expr

variable {d : Dialect}

/-- No evaluation comes to a text that a reading gives up at a newline. -/
theorem evaluate_ne_leadingNewline (e : Expr) (reading : NumericReading) (t : Text) :
    e.evaluate d ≠ .error (.discard (.leadingNewline reading t)) := by
  intro failed
  have admitted : e.Admitted d (fun t => requireSafeStart (.text t) = .ok ()) Failure.NotAtNewline :=
    ⟨fun t _ safe => safe, fun n g _ _ => trivial⟩
  have outcome := evaluate_yields (closed_notAtNewline d) admitted
  rw [failed] at outcome
  exact outcome

/-- The check of an argument that has a value is one that the value passes. -/
theorem evaluateArguments_eq_evaluateAll (arguments : List Expr) :
    evaluateArguments d arguments = evaluateAll d arguments := by
  induction arguments with
  | nil => rfl
  | cons a arguments ih =>
      rw [evaluateArguments, evaluateAll, ih]
      cases value : a.evaluate d with
      | error f => rfl
      | ok v =>
          change (do requireSafeStart v; _) = _
          rw [evaluate_safe value]
          rfl

/-- A text that an expression has as its value starts, after spaces and tabs, with neither a newline nor
a period. So every argument of a call that has a value passes the check of arguments, and the call has
the outcome that it has without the check; and as nothing in an evaluation hides the failure of a reading,
no text is read that has a newline there. -/
theorem evaluate_text_safe (d : Dialect) (e : Expr) :
    (∀ t, e.evaluate d = .ok (.text t) →
      requireSafeStart (.text t) = .ok () ∧
        t.skipBlanks.head? ≠ some (.char '\n') ∧ t.skipBlanks.head? ≠ some (.char '.')) ∧
    (∀ f arguments, e = .call f arguments →
      (∀ a ∈ arguments, ∀ v, a.evaluate d = .ok v → requireSafeStart v = .ok ()) ∧
        e.evaluate d = (do
          let definition ← definitionOf d f
          definition.checkCount arguments.length
          evaluateCall definition arguments (← evaluateAll d arguments))) ∧
    ∀ reading t, e.evaluate d ≠ .error (.discard (.leadingNewline reading t)) := by
  refine ⟨?_, ?_, e.evaluate_ne_leadingNewline⟩
  · intro t value
    have safe := evaluate_safe value
    exact ⟨safe, requireSafeStart_text_eq_ok_iff.mp safe⟩
  · rintro f arguments rfl
    refine ⟨fun a _ v value => evaluate_safe value, ?_⟩
    rw [evaluate, evaluateArguments_eq_evaluateAll]

/-- A choice in MySQL between a text that has a minus and a period after its blanks and the least integer as
a text, by a text that is a number. -/
theorem evaluate_text_safe_choice :
    let fraction := Text.ofString " \t-.5"
    let least := Expr.cast (.constant (.int ⟨minBigint, by decide⟩)) .text
    let e := Expr.call .ifElse [.constant (.text " 1"), .collate (.constant (.text fraction)) "latin1", least]
    e.evaluate .mysql = .ok (.text fraction) ∧ requireSafeStart (.text fraction) = .ok () ∧
      requireSafeStart (.text (Text.ofInt minBigint)) = .ok () := by
  intro fraction least e
  have value : e.evaluate .mysql = .ok (.text fraction) := by decide +kernel
  obtain ⟨texts, calls, _⟩ := evaluate_text_safe .mysql e
  exact ⟨value, (texts fraction value).1, (calls .ifElse _ rfl).1 least (by simp) _ rfl⟩

end Expr

end PivotOracle
