import PivotOracle.Proofs.Reporting

/-!
# Endings of a check

A check has eight endings. The expression, its prediction and the engine's answer decide, in this order,
which of them it comes to, and the engine is asked only where there is a value to compare with its answer.

* `Expr.CheckEnds` — the endings, each with its condition and with what it leaves in the session.
* `Expr.run_check_iff` — a check comes to an ending exactly where its condition holds.
* `Expr.visit_lines_of_evaluate` — the first line of a trace shows the value of the whole.
* `Expr.check_executes` — which query a check gives the engine, when it confirms a prediction, and what it
  reports otherwise.
-/

namespace PivotOracle

/-- An engine that gives no row is asked all the same. -/
theorem run_askEngine_of_none {s : Session} (answered : s.answers s.executed.length = none)
    (query : Text) : (askEngine query).run s = (.error (.noRows query), s.asked query) := by
  have executed : (SessionM.execute query).run (s.logged .debug ("[ORACLE] executing " ++ query)) =
      (.ok none, s.asked query) := by
    rw [← answered]
    rfl
  rw [askEngine, SessionM.run_bind_of_ok (SessionM.run_log _ _), SessionM.run_bind_of_ok executed]
  rfl

theorem SessionM.run_lift_error {α : Type} {s : Session} {result : Except Failure α} {f : Failure}
    (fails : result = .error f) : (lift result).run s = (.error (.expression f), s) := by
  subst fails
  rfl

theorem Trace.complete_eq_ok {t : Trace} {text : Text} (complete : t.complete = .ok text) :
    t.text = text := by
  unfold Trace.complete at complete
  split at complete
  · cases complete
    rfl
  · cases complete

namespace Expr

/-! ### The first line of a trace -/

/-- The first line of the trace of what has a value and can be written shows that value. -/
theorem visit_lines_of_evaluate {d : Dialect} {e : Expr} {v : Scalar} {t : Text}
    (value : e.evaluate d = .ok v) (rendered : e.render d = .ok t) (style : TraceStyle) :
    ∃ first rest, (e.visit style d).lines = first :: rest ∧ e.ShowsValue style d v first := by
  obtain ⟨first, written, shown⟩ : ∃ line, traceLine style d e = .ok line ∧
      e.ShowsValue style d v line := traceLine_of_evaluate value rendered
  have notType : ∀ t, e ≠ .typeName t := by
    rintro t rfl
    cases value
  rw [visit_eq, traced_eq_cons notType, List.map_cons, Trace.ofLines_cons, written]
  exact ⟨first, _, rfl, shown⟩

/-! ### Endings -/

/-- A check of an expression asks an engine with the text `t`, and the value `v` is to be compared with the
answer. -/
structure Asks (d : Dialect) (e : Expr) (t : Text) (v : Scalar) : Prop where
  accepted : e.validate d = .ok t
  predicted : e.predict d = .ok (.value v)

/-- How a check of an expression in a session ends, and the session that it leaves. -/
inductive CheckEnds (style : TraceStyle) (d : Dialect) (e : Expr) (s : Session) :
    Except CheckFailure Prediction → Session → Prop where
  /-- The dialect cannot express the expression. -/
  | rejected {f : Failure} (refused : e.validate d = .error f) :
    CheckEnds style d e s (.error (.expression f)) s
  /-- The prediction fails. -/
  | unpredicted {t : Text} {f : Failure} (accepted : e.validate d = .ok t)
      (failed : e.predict d = .error f) : CheckEnds style d e s (.error (.expression f)) s
  /-- The value is not certain. -/
  | discarded {t : Text} {reason : Discard} (accepted : e.validate d = .ok t)
      (uncertain : e.predict d = .ok (.discarded reason)) :
    CheckEnds style d e s (.ok (.discarded reason))
      (s.logged .debug ("[EVALUATION] discarding case: " ++ reason.message))
  /-- The engine gives no row. -/
  | noRow {t : Text} {v : Scalar} (asks : e.Asks d t v)
      (answered : s.answers s.executed.length = none) :
    CheckEnds style d e s (.error (.noRows ("SELECT " ++ t))) (s.asked ("SELECT " ++ t))
  /-- The engine's answer is no scalar. -/
  | inconvertible {t : Text} {v : Scalar} {raw : RawValue} {c : ConversionError}
      (asks : e.Asks d t v) (answered : s.answers s.executed.length = some raw)
      (refused : raw.convert = .error c) :
    CheckEnds style d e s (.error (.conversion c)) (s.asked ("SELECT " ++ t))
  /-- The engine's answer is the predicted scalar. -/
  | agreed {t : Text} {v : Scalar} {raw : RawValue} (asks : e.Asks d t v)
      (answered : s.answers s.executed.length = some raw) (converted : raw.convert = .ok v) :
    CheckEnds style d e s (.ok (.value v)) ((s.asked ("SELECT " ++ t)).logged .debug
      ("[ORACLE] " ++ ("SELECT " ++ t) ++ " matched " ++ v.shown))
  /-- The engine's answer is another scalar. -/
  | mismatched {t : Text} {v a : Scalar} {raw : RawValue} {trace : Text} (asks : e.Asks d t v)
      (answered : s.answers s.executed.length = some raw) (converted : raw.convert = .ok a)
      (differs : a ≠ v) (traced : e.trace style d = .ok trace) :
    CheckEnds style d e s (.error (.mismatch ⟨"SELECT " ++ t, v, a, trace, d.label⟩))
      ((s.asked ("SELECT " ++ t)).logged .error
        ("[ORACLE] " ++ Mismatch.render ⟨"SELECT " ++ t, v, a, trace, d.label⟩))
  /-- The engine's answer is another scalar, and there is no trace to report it with. -/
  | untraced {t : Text} {v a : Scalar} {raw : RawValue} {f : Failure} (asks : e.Asks d t v)
      (answered : s.answers s.executed.length = some raw) (converted : raw.convert = .ok a)
      (differs : a ≠ v) (broken : e.trace style d = .error f) :
    CheckEnds style d e s (.error (.expression f)) (s.asked ("SELECT " ++ t))

section Endings

variable {style : TraceStyle} {d : Dialect} {e : Expr} {s after : Session}
  {result : Except CheckFailure Prediction}

/-- A check ends so wherever the condition of the ending holds. -/
theorem CheckEnds.run_check (ends : CheckEnds style d e s result after) :
    (e.check style d).run s = (result, after) := by
  cases ends with
  | rejected refused => rw [check, SessionM.run_bind_of_error (SessionM.run_lift_error refused)]
  | @unpredicted t f accepted failed =>
      have logged : (e.predictLogged d).run s = (.error (.expression f), s) := by
        rw [predictLogged, SessionM.run_bind_of_error (SessionM.run_lift_error failed)]
      rw [check, SessionM.run_bind_of_ok (SessionM.run_lift accepted),
        SessionM.run_bind_of_error logged]
  | @discarded t reason accepted uncertain =>
      have logged : (e.predictLogged d).run s = (.ok (.discarded reason),
          s.logged .debug ("[EVALUATION] discarding case: " ++ reason.message)) := by
        rw [predictLogged, SessionM.run_bind_of_ok (SessionM.run_lift uncertain)]
        rfl
      rw [check, SessionM.run_bind_of_ok (SessionM.run_lift accepted), SessionM.run_bind_of_ok logged]
      rfl
  | noRow asks answered =>
      rw [Expr.run_check asks.accepted asks.predicted,
        SessionM.run_bind_of_error (run_askEngine_of_none answered _)]
  | inconvertible asks answered refused =>
      exact check_of_inconvertible asks.accepted asks.predicted answered refused style
  | agreed asks answered converted =>
      exact check_of_agreement asks.accepted asks.predicted answered converted style
  | mismatched asks answered converted differs traced =>
      exact check_of_mismatch asks.accepted asks.predicted answered converted differs traced
  | @untraced t v a raw f asks answered converted differs broken =>
      have answer := run_askEngine answered ("SELECT " ++ t)
      rw [converted] at answer
      rw [Expr.run_check asks.accepted asks.predicted, SessionM.run_bind_of_ok answer,
        compareAnswer, if_neg differs, SessionM.run_bind_of_error (SessionM.run_lift_error broken)]

/-- Where there is a value to compare with the engine's answer, a check gives the engine one query, and
however the engine answers, the check has an ending. -/
theorem Asks.exists_checkEnds {t : Text} {v : Scalar} (asks : e.Asks d t v)
    (style : TraceStyle) (s : Session) :
    ∃ result after, CheckEnds style d e s result after ∧
      after.executed = s.executed ++ ["SELECT " ++ t] := by
  cases answered : s.answers s.executed.length with
  | none => exact ⟨_, _, .noRow asks answered, rfl⟩
  | some raw =>
      cases converted : raw.convert with
      | error c => exact ⟨_, _, .inconvertible asks answered converted, rfl⟩
      | ok a =>
          by_cases same : a = v
          · subst same
            exact ⟨_, _, .agreed asks answered converted, rfl⟩
          · cases traced : e.trace style d with
            | ok trace => exact ⟨_, _, .mismatched asks answered converted same traced, rfl⟩
            | error f => exact ⟨_, _, .untraced asks answered converted same traced, rfl⟩

/-- Every check has an ending. -/
theorem exists_checkEnds (style : TraceStyle) (d : Dialect) (e : Expr) (s : Session) :
    ∃ result after, CheckEnds style d e s result after := by
  cases accepted : e.validate d with
  | error f => exact ⟨_, _, .rejected accepted⟩
  | ok t =>
      cases predicted : e.predict d with
      | error f => exact ⟨_, _, .unpredicted accepted predicted⟩
      | ok outcome =>
          cases outcome with
          | discarded reason => exact ⟨_, _, .discarded accepted predicted⟩
          | value v =>
              have asks : e.Asks d t v := ⟨accepted, predicted⟩
              obtain ⟨result, after, ends, _⟩ := asks.exists_checkEnds style s
              exact ⟨result, after, ends⟩

/-- A check ends so exactly where the condition of the ending holds. -/
theorem run_check_iff :
    (e.check style d).run s = (result, after) ↔ CheckEnds style d e s result after := by
  constructor
  · intro ran
    obtain ⟨result', after', ends⟩ := exists_checkEnds style d e s
    rw [ends.run_check] at ran
    cases ran
    exact ends
  · exact CheckEnds.run_check

/-- A check that confirms a value has found it to be predicted, and the engine's answer to be the same
scalar. -/
theorem CheckEnds.eq_value_iff {v : Scalar} (ends : CheckEnds style d e s result after) :
    result = .ok (.value v) ↔ ∃ t raw, e.validate d = .ok t ∧ e.predict d = .ok (.value v) ∧
      s.answers s.executed.length = some raw ∧ raw.convert = .ok v := by
  constructor
  · rintro rfl
    cases ends with
    | agreed asks answered converted =>
        exact ⟨_, _, asks.accepted, asks.predicted, answered, converted⟩
  · rintro ⟨t, raw, accepted, predicted, answered, converted⟩
    have ran := ends.run_check
    rw [(CheckEnds.agreed ⟨accepted, predicted⟩ answered converted).run_check] at ran
    cases ran
    rfl

/-- A report of a mismatch is one of the query that the engine was given, of the predicted scalar and another
one, which the engine answered, and of a trace that shows the predicted one first. -/
theorem CheckEnds.of_mismatch {report : Mismatch}
    (ends : CheckEnds style d e s (.error (.mismatch report)) after) :
    after.executed = s.executed ++ [report.query] ∧
      e.predict d = .ok (.value report.predicted) ∧
      (∃ raw, s.answers s.executed.length = some raw ∧ raw.convert = .ok report.actual) ∧
      report.predicted ≠ report.actual ∧
      e.trace style d = .ok report.trace ∧
      ∃ first rest, report.trace = (first :: rest).flatten ∧
        e.ShowsValue style d report.predicted first := by
  cases ends with
  | @mismatched t v a raw trace asks answered converted differs traced =>
      obtain ⟨_, _, complete⟩ := bind_eq_ok.mp traced
      have value := predict_eq_value_iff.mp asks.predicted
      have rendered := validate_eq_ok.mp asks.accepted
      obtain ⟨first, rest, lines, shown⟩ := visit_lines_of_evaluate value rendered style
      have text : trace = (first :: rest).flatten := by
        rw [← Trace.complete_eq_ok complete, Trace.text, lines]
      exact ⟨rfl, asks.predicted, ⟨raw, answered, converted⟩, differs.symm, traced, first, rest, text,
        shown⟩

end Endings

/-- What a check gives the engine and what comes of it. What the dialect cannot express, what fails to be
predicted and what is discarded is never given to the engine. Of what has a value the check gives the engine
one query, the expression's own text, and confirms the value where the answer is the same scalar: the same
integer, the same text, or null for null. A report of a mismatch is one of that query, of two scalars that
differ, and of a trace that shows the predicted one on its first line. -/
theorem check_executes (style : TraceStyle) (d : Dialect) (e : Expr) (s : Session) :
    let result := ((e.check style d).run s).1
    let after := ((e.check style d).run s).2
    (∀ f, e.validate d = .error f →
      result = .error (.expression f) ∧ after.executed = s.executed) ∧
    (∀ t f, e.validate d = .ok t → e.predict d = .error f →
      result = .error (.expression f) ∧ after.executed = s.executed) ∧
    (∀ t reason, e.validate d = .ok t → e.predict d = .ok (.discarded reason) →
      result = .ok (.discarded reason) ∧ after.executed = s.executed) ∧
    (∀ t v, e.validate d = .ok t → e.predict d = .ok (.value v) →
      e.render d = .ok t ∧ after.executed = s.executed ++ ["SELECT " ++ t]) ∧
    (∀ v, result = .ok (.value v) ↔
      ∃ t raw, e.validate d = .ok t ∧ e.predict d = .ok (.value v) ∧
        s.answers s.executed.length = some raw ∧ raw.convert = .ok v) ∧
    ∀ report, result = .error (.mismatch report) →
      after.executed = s.executed ++ [report.query] ∧
      e.predict d = .ok (.value report.predicted) ∧
      (∃ raw, s.answers s.executed.length = some raw ∧ raw.convert = .ok report.actual) ∧
      report.predicted ≠ report.actual ∧
      e.trace style d = .ok report.trace ∧
      ∃ first rest, report.trace = (first :: rest).flatten ∧
        e.ShowsValue style d report.predicted first := by
  intro result after
  -- A check has one ending, and so it is enough to name the ending that holds.
  have outcome {r : Except CheckFailure Prediction} {s' : Session}
      (ends : CheckEnds style d e s r s') : result = r ∧ after = s' :=
    Prod.mk.inj ends.run_check
  have ends : CheckEnds style d e s result after := run_check_iff.mp rfl
  refine ⟨?_, ?_, ?_, ?_, fun v => ends.eq_value_iff, ?_⟩
  · intro f refused
    obtain ⟨failure, unasked⟩ := outcome (.rejected refused)
    exact ⟨failure, congrArg Session.executed unasked⟩
  · intro t f accepted failed
    obtain ⟨failure, unasked⟩ := outcome (.unpredicted accepted failed)
    exact ⟨failure, congrArg Session.executed unasked⟩
  · intro t reason accepted uncertain
    obtain ⟨discard, unasked⟩ := outcome (.discarded accepted uncertain)
    exact ⟨discard, (congrArg Session.executed unasked).trans rfl⟩
  · intro t v accepted predicted
    have asks : e.Asks d t v := ⟨accepted, predicted⟩
    obtain ⟨_, _, asked, executed⟩ := asks.exists_checkEnds style s
    rw [(outcome asked).2]
    exact ⟨validate_eq_ok.mp accepted, executed⟩
  · intro report mismatch
    rw [mismatch] at ends
    exact ends.of_mismatch

/-- The number 1 in the place of the text '1' is a mismatch: the engine is given one query, and the text is
not confirmed. -/
theorem check_executes_number_for_text :
    let e := Expr.constant (.text "1")
    let s : Session := { answers := fun _ => some (.plain (.int 1)) }
    ((e.check {} .mysql).run s).2.executed = ["SELECT '1'"] ∧
      ((e.check {} .mysql).run s).1 ≠ .ok (.value (.text "1")) := by
  intro e s
  obtain ⟨_, _, _, executes, confirms, _⟩ := check_executes {} .mysql e s
  refine ⟨(executes "'1'" (.text "1") rfl rfl).2, fun confirmed => ?_⟩
  obtain ⟨t, raw, _, _, answered, converted⟩ := (confirms _).mp confirmed
  cases answered
  cases converted

end Expr

end PivotOracle
