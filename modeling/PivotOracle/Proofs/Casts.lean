import PivotOracle.Proofs.DialectAgreement

/-!
# Casts of casts

Every type that a value may be cast to keeps what it was: an integer is read back from its text by either dialect, and
a value that has the type already stays as it is. So of casts that nest, the outermost alone shows in an integer, and
none in null.

* `Scalar.ofTarget` — a value that is no text, as one of a type.
* `castTo_ofTarget` — a cast of such a value, of whatever type it was made, to another.
* `castTo_castTo` — a cast changes nothing that it has made.
* `Expr.casts`, `Expr.evaluate_casts` — an expression under any number of casts.
* `Expr.predict_casts` — what is predicted of casts of casts.
-/

namespace PivotOracle

/-- A value that is no text as one of a type: itself, or its text. -/
def Scalar.ofTarget (v : Scalar) : CastTarget → Scalar
  | .signed => v
  | .text => v.castText

section Values

variable {v w : Scalar}

/-- Both dialects have the same text of a value. -/
theorem castTo_text (d : Dialect) (v : Scalar) : castTo d .text v = .ok v.castText := by
  cases d <;> cases v <;> rfl

/-- Null and integers stay as they are where they are cast to integers. -/
theorem castTo_signed_of_notText (d : Dialect) (notText : v.isText = false) : castTo d .signed v = .ok v := by
  rcases Scalar.null_or_int notText with rfl | ⟨n, rfl⟩ <;> cases d <;> rfl

/-- Each dialect reads an integer back from its text. -/
theorem castTo_signed_castText (d : Dialect) (notText : v.isText = false) :
    castTo d .signed v.castText = .ok v := by
  cases d with
  | mysql => exact Scalar.castSigned_castText notText
  | sqlite =>
      rcases Scalar.null_or_int notText with rfl | ⟨n, rfl⟩
      · rfl
      · change (do return Scalar.int (← readLiteral numeralDigit (Text.ofInt n.val))) = _
        rw [readLiteral_ofInt]
        rfl

/-- Of whatever type a value that is no text was made, a cast makes the same of it as of the value itself. -/
theorem castTo_ofTarget (d : Dialect) (notText : v.isText = false) (target made : CastTarget) :
    castTo d target (v.ofTarget made) = .ok (v.ofTarget target) := by
  cases target with
  | signed =>
      cases made with
      | signed => exact castTo_signed_of_notText d notText
      | text => exact castTo_signed_castText d notText
  | text =>
      rw [castTo_text]
      cases made with
      | signed => rfl
      | text => cases v <;> rfl

/-- A cast to an integer makes no text. -/
theorem isText_of_castTo_signed (d : Dialect) (value : castTo d .signed v = .ok w) : w.isText = false := by
  by_cases text : v.isText = true
  · cases v with
    | text t =>
        cases d with
        | mysql =>
            obtain ⟨n, -, same⟩ := bind_eq_ok.mp value
            cases same
            rfl
        | sqlite =>
            obtain ⟨n, -, same⟩ := bind_eq_ok.mp value
            cases same
            rfl
    | null => cases text
    | int n => cases text
  · have notText := Bool.eq_false_iff.mpr text
    rw [castTo_signed_of_notText d notText] at value
    cases value
    exact notText

/-- A cast changes nothing that it has made. -/
theorem castTo_castTo (d : Dialect) {target : CastTarget} (value : castTo d target v = .ok w) :
    castTo d target w = .ok w := by
  cases target with
  | signed => exact castTo_signed_of_notText d (isText_of_castTo_signed d value)
  | text =>
      rw [castTo_text] at value ⊢
      cases value
      cases v <;> rfl

end Values

namespace Expr

variable {d : Dialect} {e : Expr} {v : Scalar}

/-- An expression under casts, of which the first one is the outermost. -/
def casts (targets : List CastTarget) (e : Expr) : Expr :=
  targets.foldr (fun target operand => cast operand target) e

theorem evaluate_cast (value : e.evaluate d = .ok v) (target : CastTarget) :
    (cast e target).evaluate d = castTo d target v := by
  rw [evaluate, value]
  rfl

/-- Of casts of a value that is no text, the outermost alone shows. -/
theorem evaluate_casts (value : e.evaluate d = .ok v) (notText : v.isText = false) (target : CastTarget)
    (targets : List CastTarget) : (casts (target :: targets) e).evaluate d = .ok (v.ofTarget target) := by
  induction targets generalizing target with
  | nil => exact (evaluate_cast value target).trans (castTo_ofTarget d notText target .signed)
  | cons made targets ih => exact (evaluate_cast (ih made) target).trans (castTo_ofTarget d notText target made)

/-- An integer is predicted again of a cast of its text, and of any casts that nest if the outermost one is to an
integer; a cast that is predicted is predicted alike under a further cast to its type; and null is predicted of any
casts of null. -/
theorem predict_casts (d : Dialect) (e : Expr) :
    (∀ n, e.predict d = .ok (.value (.int n)) →
      (cast (cast e .text) .signed).predict d = .ok (.value (.int n)) ∧
        ∀ targets, (casts (.signed :: targets) e).predict d = .ok (.value (.int n))) ∧
    (∀ target v, (cast e target).predict d = .ok (.value v) →
      (cast (cast e target) target).predict d = .ok (.value v)) ∧
    (e.predict d = .ok (.value .null) → ∀ targets, (casts targets e).predict d = .ok (.value .null)) := by
  simp only [predict_eq_value_iff]
  refine ⟨fun n value => ?_, fun target v value => ?_, fun value targets => ?_⟩
  · exact ⟨evaluate_casts value rfl .signed [.text], evaluate_casts value rfl .signed⟩
  · obtain ⟨w, -, made⟩ := bind_eq_ok.mp value
    exact (evaluate_cast value target).trans (castTo_castTo d made)
  · cases targets with
    | nil => exact value
    | cons target targets =>
        have outermost := evaluate_casts value rfl target targets
        cases target <;> exact outermost

/-- The least integer, which SQLite reads back from its text; a text of MySQL that is read up to its letter, and as
itself from then on; and null. -/
theorem predict_casts_least :
    let least := constant (.int ⟨minBigint, by decide⟩)
    let letters := constant (.text " 7x")
    least.predict .sqlite = .ok (.value (.int ⟨minBigint, by decide⟩)) ∧
      (cast (cast least .text) .signed).predict .sqlite = .ok (.value (.int ⟨minBigint, by decide⟩)) ∧
      (cast letters .signed).predict .mysql = .ok (.value (.int ⟨7, by decide⟩)) ∧
      (cast (cast letters .signed) .signed).predict .mysql = .ok (.value (.int ⟨7, by decide⟩)) ∧
      (constant .null).predict .mysql = .ok (.value .null) ∧
      (casts [.text, .signed, .text] (constant .null)).predict .mysql = .ok (.value .null) := by
  intro least letters
  have leastValue : least.predict .sqlite = .ok (.value (.int ⟨minBigint, by decide⟩)) := rfl
  have lettersValue : (cast letters .signed).predict .mysql = .ok (.value (.int ⟨7, by decide⟩)) := rfl
  have nullValue : (constant .null).predict .mysql = .ok (.value .null) := rfl
  exact ⟨leastValue, ((predict_casts .sqlite least).1 _ leastValue).1, lettersValue,
    (predict_casts .mysql letters).2.1 _ _ lettersValue, nullValue, (predict_casts .mysql _).2.2 nullValue _⟩

end Expr

end PivotOracle
