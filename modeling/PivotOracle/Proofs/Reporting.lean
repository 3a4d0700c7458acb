import PivotOracle.Oracle.Check
import PivotOracle.Proofs.Validation

/-!
# Reports of disagreement

A check that finds an engine to disagree makes a trace for its report, and might fail over that
instead of reporting. It does not: what has a value has a complete trace, if its subqueries are made
to have values that the dialect can express. What a check does with a prediction is then a matter of
the engine's answer alone.

* `SessionM.run_bind_of_ok`, `SessionM.run_bind_of_error` — steps of a session, one after the other.
* `Expr.trace_of_value` — what is predicted has a complete trace.
* `Expr.check_of_agreement`, `Expr.check_of_mismatch`, `Expr.check_of_inconvertible` — the result of
  a check, and what it leaves in the session.
* `Expr.check_reports` — a check ends in the prediction or in a report of it, unless the answer is
  no scalar.
-/

namespace PivotOracle

/-! ### Steps of a session -/

namespace Session

/-- The session with one more record in its log. -/
def logged (s : Session) (level : LogLevel) (text : Text) : Session :=
  { s with logs := s.logs ++ [⟨level, text⟩] }

/-- The session in which an engine was asked one more query. -/
def asked (s : Session) (query : Text) : Session :=
  { s.logged .debug ("[ORACLE] executing " ++ query) with executed := s.executed ++ [query] }

end Session

namespace SessionM

variable {α β : Type} {s s' : Session}

/-- The second of two steps goes on with the result and the session that the first one leaves. -/
theorem run_bind (x : SessionM α) (next : α → SessionM β) (s : Session) :
    (x >>= next).run s = ExceptT.bindCont next (x.run s).1 (x.run s).2 := rfl

theorem run_bind_of_ok {x : SessionM α} {a : α} (ran : x.run s = (.ok a, s'))
    (next : α → SessionM β) : (x >>= next).run s = (next a).run s' := by
  rw [run_bind, ran]
  rfl

theorem run_bind_of_error {x : SessionM α} {f : CheckFailure} (ran : x.run s = (.error f, s'))
    (next : α → SessionM β) : (x >>= next).run s = (.error f, s') := by
  rw [run_bind, ran]
  rfl

theorem run_log (level : LogLevel) (text : Text) :
    (log level text).run s = (.ok (), s.logged level text) := rfl

theorem run_lift {result : Except Failure α} {a : α} (gives : result = .ok a) :
    (lift result).run s = (.ok a, s) := by
  subst gives
  rfl

end SessionM

/-- An engine is asked with a query, and its answer is converted. -/
theorem run_askEngine {s : Session} {raw : RawValue}
    (answered : s.answers s.executed.length = some raw) (query : Text) :
    (askEngine query).run s = (raw.convert.mapError .conversion, s.asked query) := by
  have executed : (SessionM.execute query).run (s.logged .debug ("[ORACLE] executing " ++ query)) =
      (.ok (some raw), s.asked query) := by
    rw [← answered]
    rfl
  rw [askEngine, SessionM.run_bind_of_ok (SessionM.run_log _ _), SessionM.run_bind_of_ok executed]
  dsimp only
  cases raw.convert <;> rfl

namespace Expr

variable {d : Dialect} {e : Expr} {t : Text} {v : Scalar}

/-! ### The trace of a report -/

/-- What is predicted has a complete trace, where it passes validation together with the values of
its subqueries. -/
theorem trace_of_value (accepted : e.validate d = .ok t) (answers : e.Answerable d)
    (value : e.evaluate d = .ok v) (style : TraceStyle) :
    e.trace style d = .ok (e.visit style d).text := by
  have written := render_of_evaluatedIn_iff.mpr ⟨⟨t, accepted⟩, answers⟩
  have complete : (e.visit style d).failure = none :=
    (visit_shows_values value fun n shown => written n (evaluatedIn_of_mem_traced shown)).1
  rw [trace, accepted]
  change (e.visit style d).complete = _
  rw [Trace.complete, complete]

/-! ### Outcomes of a check -/

section Check

variable {style : TraceStyle} {s : Session} {raw : RawValue} {a : Scalar}

/-- A check of what is predicted asks the engine with the text that passed validation. -/
theorem run_check (accepted : e.validate d = .ok t) (predicted : e.predict d = .ok (.value v))
    (style : TraceStyle) (s : Session) :
    (e.check style d).run s =
      (askEngine ("SELECT " ++ t) >>= compareAnswer style d e ("SELECT " ++ t) v).run s := by
  have logged : (e.predictLogged d).run s = (.ok (.value v), s) := by
    rw [predictLogged, SessionM.run_bind_of_ok (SessionM.run_lift predicted)]
    rfl
  have query : e.query d = .ok ("SELECT " ++ t) := by
    rw [Expr.query, validate_eq_ok.mp accepted]
    rfl
  rw [check, SessionM.run_bind_of_ok (SessionM.run_lift accepted), SessionM.run_bind_of_ok logged]
  dsimp only
  rw [SessionM.run_bind_of_ok (SessionM.run_lift query)]

/-- Where the engine agrees with the prediction, a check gives the prediction. -/
theorem check_of_agreement (accepted : e.validate d = .ok t)
    (predicted : e.predict d = .ok (.value v)) (answered : s.answers s.executed.length = some raw)
    (converted : raw.convert = .ok v) (style : TraceStyle) :
    (e.check style d).run s =
      (.ok (.value v), (s.asked ("SELECT " ++ t)).logged .debug
        ("[ORACLE] " ++ ("SELECT " ++ t) ++ " matched " ++ v.shown)) := by
  have answer := run_askEngine answered ("SELECT " ++ t)
  rw [converted] at answer
  rw [run_check accepted predicted, SessionM.run_bind_of_ok answer, compareAnswer, if_pos rfl]
  rfl

/-- Where the engine disagrees, a check logs a report of the two values with the trace, and ends in
it. -/
theorem check_of_mismatch (accepted : e.validate d = .ok t)
    (predicted : e.predict d = .ok (.value v)) (answered : s.answers s.executed.length = some raw)
    (converted : raw.convert = .ok a) (differs : a ≠ v) {trace : Text}
    (traced : e.trace style d = .ok trace) :
    (e.check style d).run s =
      (.error (.mismatch ⟨"SELECT " ++ t, v, a, trace, d.label⟩),
        (s.asked ("SELECT " ++ t)).logged .error
          ("[ORACLE] " ++ Mismatch.render ⟨"SELECT " ++ t, v, a, trace, d.label⟩)) := by
  have answer := run_askEngine answered ("SELECT " ++ t)
  rw [converted] at answer
  rw [run_check accepted predicted, SessionM.run_bind_of_ok answer, compareAnswer, if_neg differs,
    SessionM.run_bind_of_ok (SessionM.run_lift traced)]
  rfl

/-- Where the engine's answer is no scalar, a check ends in that, with nothing logged beyond the
query. -/
theorem check_of_inconvertible (accepted : e.validate d = .ok t)
    (predicted : e.predict d = .ok (.value v)) (answered : s.answers s.executed.length = some raw)
    {c : ConversionError} (converted : raw.convert = .error c) (style : TraceStyle) :
    (e.check style d).run s = (.error (.conversion c), s.asked ("SELECT " ++ t)) := by
  have answer := run_askEngine answered ("SELECT " ++ t)
  rw [converted] at answer
  rw [run_check accepted predicted, SessionM.run_bind_of_error answer]

/-- A check of what passes validation and is predicted, where the values of its subqueries pass
validation too, ends in one of three ways, and the engine's answer decides which. An answer that is
the predicted scalar confirms the prediction; any other scalar is reported with the predicted value,
the query and the whole trace; and an answer that is no scalar is refused as such. -/
theorem check_reports (accepted : e.validate d = .ok t) (predicted : e.predict d = .ok (.value v))
    (answers : e.Answerable d) (answered : s.answers s.executed.length = some raw)
    (style : TraceStyle) :
    (raw.convert = .ok v → ((e.check style d).run s).1 = .ok (.value v)) ∧
    (∀ a, raw.convert = .ok a → a ≠ v → ∃ report : Mismatch,
      ((e.check style d).run s).1 = .error (.mismatch report) ∧
        report.predicted = v ∧ report.actual = a ∧ report.query = "SELECT " ++ t ∧
        e.trace style d = .ok report.trace) ∧
    ∀ c, raw.convert = .error c → ((e.check style d).run s).1 = .error (.conversion c) := by
  refine ⟨fun converted => ?_, fun a converted differs => ?_, fun c converted => ?_⟩
  · exact congrArg Prod.fst (check_of_agreement accepted predicted answered converted style)
  · have traced := trace_of_value accepted answers (predict_eq_value_iff.mp predicted) style
    refine ⟨⟨"SELECT " ++ t, v, a, _, d.label⟩, ?_, rfl, rfl, rfl, traced⟩
    exact congrArg Prod.fst
      (check_of_mismatch accepted predicted answered converted differs traced)
  · exact congrArg Prod.fst (check_of_inconvertible accepted predicted answered converted style)

end Check

/-- An engine that finds no row for a test that surely holds is reported, with the trace of two
lines. -/
theorem check_reports_missing_row :
    let query : Select Expr := ⟨[], [], [], some (.constant (.int 1)), [], none⟩
    let e := Expr.existsRow false query
    let s : Session := { answers := fun _ => some (.plain (.int 0)) }
    ∃ report : Mismatch, ((e.check {} .mysql).run s).1 = .error (.mismatch report) ∧
      report.predicted = .int 1 ∧ report.actual = .int 0 := by
  intro query e s
  have accepted : e.validate .mysql = .ok "EXISTS (SELECT * WHERE 1)" := rfl
  have condition : (Expr.constant (.int 1)).Answerable .mysql := answerable_iff.mpr ⟨nofun, nofun⟩
  have answers : e.Answerable .mysql :=
    answerable_iff.mpr ⟨nofun, List.forall_mem_singleton.mpr condition⟩
  obtain ⟨_, mismatch, _⟩ := check_reports (s := s) accepted rfl answers rfl {}
  obtain ⟨report, outcome, expected, actual, _⟩ := mismatch (.int 0) rfl (by decide)
  exact ⟨report, outcome, expected, actual⟩

/-- A fraction in the place of a predicted integer is not reported: no scalar is a fraction. -/
theorem check_fraction :
    let e := Expr.constant (.int 1)
    let s : Session := { answers := fun _ => some (.decimal (.finite ⟨false, 15, -1⟩)) }
    e.validate .sqlite = .ok "1" ∧ e.predict .sqlite = .ok (.value (.int 1)) ∧
      ((e.check {} .sqlite).run s).1 = .error (.conversion (.inconvertible "decimal.Decimal" "1.5")) ∧
      ((e.check {} .sqlite).run s).1 ≠ .ok (.value (.int 1)) ∧
      ∀ report, ((e.check {} .sqlite).run s).1 ≠ .error (.mismatch report) := by
  intro e s
  have accepted : e.validate .sqlite = .ok "1" := rfl
  have predicted : e.predict .sqlite = .ok (.value (.int 1)) := rfl
  have outcome : ((e.check {} .sqlite).run s).1 =
      .error (.conversion (.inconvertible "decimal.Decimal" "1.5")) :=
    congrArg Prod.fst (check_of_inconvertible accepted predicted rfl rfl {})
  refine ⟨accepted, predicted, outcome, fun confirmed => ?_, fun report reported => ?_⟩
  · rw [outcome] at confirmed
    cases confirmed
  · rw [outcome] at reported
    cases reported

end Expr

end PivotOracle
