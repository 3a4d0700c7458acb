import PivotOracle.Proofs.ReadingLimits
import PivotOracle.Proofs.TraceAgreement

/-!
# Validation

An expression passes validation where it can be written in the dialect. Evaluation and traces go
through it by ways of their own, and reach nothing that is not written, with one exception: a
subquery is written as its statement and evaluated as the value that it is made to have. Validation
guards an evaluation and a trace where that value passes validation too.

* `Expr.ownFault_of_evaluate` — a fault is one that something evaluated brings about itself.
* `Expr.render_of_mem_writtenParts` — what is written is made of parts that are written.
* `definitionOf_iff_callForm` — a dialect evaluates the functions that it can write.
* `Expr.Answerable` — the values that subqueries are made to have pass validation.
* `Expr.render_of_evaluatedIn` — then all that is evaluated can be written.
* `Expr.validate_guards` — and neither a prediction nor a trace comes upon a construct that the
  dialect lacks.
-/

namespace PivotOracle

namespace Expr

variable {d : Dialect}

/-! ### Whose a fault is -/

/-- Where an evaluation has a fault, something that is evaluated brings that fault about itself. -/
theorem ownFault_of_evaluate {e : Expr} {g : Fault} (failed : e.evaluate d = .error (.fault g)) :
    ∃ n : Expr, n.EvaluatedIn e ∧ n.OwnFault d g := by
  let F : Failure → Prop := fun f => ∀ g, f = .fault g → ∃ n : Expr, n.EvaluatedIn e ∧ n.OwnFault d g
  have closed : Closed d (fun t => ∀ f, t.BreaksOff d f → F f) F :=
    closed_of_discard fun reason g same => nomatch same
  have admitted : e.Admitted d (fun t => ∀ f, t.BreaksOff d f → F f) F := by
    refine ⟨fun t held safe f broken g same => ?_, fun n g evaluated own g' same => ?_⟩
    · rw [same] at broken
      cases broken
    · cases same
      exact ⟨n, evaluated, own⟩
  have outcome := evaluate_yields closed admitted
  rw [failed] at outcome
  exact outcome g rfl

/-- An evaluation never fails for want of a way to write something. -/
theorem evaluate_ne_unsupported (e : Expr) (c : Construct) (d' : Dialect) :
    e.evaluate d ≠ .error (.unsupported c d') := by
  intro failed
  cases obstacle_of_evaluate failed with
  | text held safe broken => cases broken

/-! ### What is written -/

/-- What passes validation is what can be written. -/
theorem validate_eq_ok {e : Expr} {t : Text} : e.validate d = .ok t ↔ e.render d = .ok t := by
  unfold validate validated
  split
  · rename_i c d' unsupported
    rw [unsupported]
    constructor <;> nofun
  · rfl

theorem render_of_mem_renderAll {es : List Expr} {texts : List Text}
    (rendered : renderAll d es = .ok texts) : ∀ e ∈ es, ∃ t, e.render d = .ok t := by
  induction es generalizing texts with
  | nil => exact nofun
  | cons e es ih =>
      obtain ⟨t, head, rest⟩ := bind_eq_ok.mp rendered
      obtain ⟨tail, renderedTail, _⟩ := bind_eq_ok.mp rest
      exact List.forall_mem_cons.mpr ⟨⟨t, head⟩, ih renderedTail⟩

theorem length_of_renderAll {es : List Expr} {texts : List Text}
    (rendered : renderAll d es = .ok texts) : es.length = texts.length := by
  induction es generalizing texts with
  | nil =>
      cases rendered
      rfl
  | cons e es ih =>
      obtain ⟨t, head, rest⟩ := bind_eq_ok.mp rendered
      obtain ⟨tail, renderedTail, same⟩ := bind_eq_ok.mp rest
      cases same
      simp [ih renderedTail]

theorem render_of_mem_renderJoins {joins : List (JoinClause Expr)} {texts : List Text}
    (rendered : renderJoins d joins = .ok texts) :
    ∀ clause ∈ joins, ∃ t, clause.condition.render d = .ok t := by
  induction joins generalizing texts with
  | nil => exact nofun
  | cons clause joins ih =>
      obtain ⟨t, head, rest⟩ := bind_eq_ok.mp rendered
      obtain ⟨tail, renderedTail, _⟩ := bind_eq_ok.mp rest
      exact List.forall_mem_cons.mpr ⟨⟨t, head⟩, ih renderedTail⟩

theorem render_of_mem_renderFilter {filter : Option Expr} {text : Option Text}
    (rendered : renderFilter d filter = .ok text) : ∀ e ∈ filter, ∃ t, e.render d = .ok t := by
  cases filter with
  | none => exact nofun
  | some condition =>
      obtain ⟨t, written, _⟩ := bind_eq_ok.mp rendered
      rintro e ⟨⟩
      exact ⟨t, written⟩

theorem render_of_mem_renderSort {terms : List (SortTerm Expr)} {texts : List Text}
    (rendered : renderSort d terms = .ok texts) :
    ∀ term ∈ terms, ∃ t, term.expression.render d = .ok t := by
  induction terms generalizing texts with
  | nil => exact nofun
  | cons term terms ih =>
      obtain ⟨t, head, rest⟩ := bind_eq_ok.mp rendered
      obtain ⟨tail, renderedTail, _⟩ := bind_eq_ok.mp rest
      exact List.forall_mem_cons.mpr ⟨⟨t, head⟩, ih renderedTail⟩

/-- A statement that is written is made of parts that are written. -/
theorem render_of_mem_selectParts {query : Select Expr} {t : Text}
    (rendered : query.render d = .ok t) {p : Expr} (mem : p ∈ query.parts) :
    ∃ u, p.render d = .ok u := by
  obtain ⟨columns, writtenColumns, rest⟩ := bind_eq_ok.mp rendered
  obtain ⟨joins, writtenJoins, rest⟩ := bind_eq_ok.mp rest
  obtain ⟨filter, writtenFilter, rest⟩ := bind_eq_ok.mp rest
  obtain ⟨orderBy, writtenOrder, _⟩ := bind_eq_ok.mp rest
  simp only [Select.parts, List.mem_append, List.mem_map, Option.mem_toList] at mem
  rcases mem with ((mem | ⟨clause, mem, rfl⟩) | mem) | ⟨term, mem, rfl⟩
  · exact render_of_mem_renderAll writtenColumns p mem
  · exact render_of_mem_renderJoins writtenJoins clause mem
  · exact render_of_mem_renderFilter writtenFilter p mem
  · exact render_of_mem_renderSort writtenOrder term mem

theorem render_existsRow (negated : Bool) (query : Select Expr) :
    (existsRow negated query).render d = (do
      return (if negated then "NOT EXISTS " else "EXISTS ") ++ (← query.render d).parenthesized) := by
  cases query
  simp only [render, Select.render, bind_assoc, pure_bind]

theorem render_subquery (query : Select Expr) (expected : Expr) :
    (subquery query expected).render d = (do return (← query.render d).parenthesized) := by
  cases query
  simp only [render, Select.render, bind_assoc, pure_bind]

/-- The parts of an expression that its text shows. -/
def writtenParts : Expr → List Expr
  | .subquery query _ => query.parts
  | e => e.parts

/-- An operator of one operand is written only where the operand is. -/
theorem render_operand {e : Expr} {write : Text → Except Failure Text} {t : Text}
    (rendered : (e.render d >>= write) = .ok t) {p : Expr} (mem : p ∈ [e]) :
    ∃ u, p.render d = .ok u := by
  obtain ⟨u, operand, _⟩ := bind_eq_ok.mp rendered
  cases List.mem_singleton.mp mem
  exact ⟨u, operand⟩

/-- An operator of two operands is written only where both are. -/
theorem render_operands {l r : Expr} {write : Text → Text → Except Failure Text} {t : Text}
    (rendered : (do write (← l.render d) (← r.render d)) = .ok t) {p : Expr} (mem : p ∈ [l, r]) :
    ∃ u, p.render d = .ok u := by
  obtain ⟨a, left, rest⟩ := bind_eq_ok.mp rendered
  obtain ⟨b, right, _⟩ := bind_eq_ok.mp rest
  rcases List.mem_pair.mp mem with rfl | rfl
  · exact ⟨a, left⟩
  · exact ⟨b, right⟩

/-- What is written is made of parts that are written. -/
theorem render_of_mem_writtenParts {e : Expr} {t : Text} (rendered : e.render d = .ok t) {p : Expr}
    (mem : p ∈ e.writtenParts) : ∃ u, p.render d = .ok u := by
  cases e with
  | constant v => cases mem
  | column c v => cases mem
  | typeName t => cases mem
  | unary op e => exact render_operand rendered mem
  | postfixTest op e => exact render_operand rendered mem
  | collate e collation => exact render_operand rendered mem
  | cast e target => exact render_operand rendered mem
  | sortTerm term => exact render_operand rendered mem
  | join clause => exact render_operand rendered mem
  | arithmetic op l r => exact render_operands rendered mem
  | comparison op l r => exact render_operands rendered mem
  | connective op l r =>
      obtain ⟨keyword, _, rest⟩ := bind_eq_ok.mp rendered
      exact render_operands rest mem
  | between negated e low high =>
      obtain ⟨a, subject, rest⟩ := bind_eq_ok.mp rendered
      rcases List.mem_cons.mp mem with rfl | mem
      · exact ⟨a, subject⟩
      · exact render_operands rest mem
  | isIn negated e candidates =>
      obtain ⟨texts, written, rest⟩ := bind_eq_ok.mp rendered
      rcases List.mem_cons.mp mem with rfl | mem
      · exact render_operand rest (List.mem_singleton.mpr rfl)
      · exact render_of_mem_renderAll written p mem
  | existsRow negated query =>
      rw [render_existsRow] at rendered
      obtain ⟨u, written, _⟩ := bind_eq_ok.mp rendered
      exact render_of_mem_selectParts written mem
  | subquery query expected =>
      rw [render_subquery] at rendered
      obtain ⟨u, written, _⟩ := bind_eq_ok.mp rendered
      exact render_of_mem_selectParts written mem
  | call f arguments =>
      obtain ⟨form, _, rest⟩ := bind_eq_ok.mp rendered
      obtain ⟨texts, written, _⟩ := bind_eq_ok.mp rest
      exact render_of_mem_renderAll written p mem

/-- What is evaluated is written, apart from the value that a subquery is made to have. -/
theorem mem_writtenParts_of_mem_evaluatedParts {p e : Expr} (mem : p ∈ e.evaluatedParts) :
    p ∈ e.writtenParts ∨ ∃ query, e = .subquery query p := by
  cases e with
  | subquery query expected =>
      cases List.mem_singleton.mp mem
      exact .inr ⟨query, rfl⟩
  | _ => exact .inl (mem_parts_of_mem_evaluatedParts mem)

/-! ### What is evaluated and traced -/

/-- A dialect evaluates the functions that it can write. -/
theorem definitionOf_iff_callForm (f : FunctionName) :
    (∃ definition, definitionOf d f = .ok definition) ↔ ∃ form, d.callForm f = .ok form := by
  cases d <;> cases f <;> first
    | exact ⟨fun _ => ⟨_, rfl⟩, fun _ => ⟨_, rfl⟩⟩
    | constructor <;> rintro ⟨_, found⟩ <;> cases found

/-- The value that a subquery is made to have passes validation, wherever one is evaluated in an
expression. -/
def Answerable (d : Dialect) (e : Expr) : Prop :=
  ∀ query expected, (subquery query expected).EvaluatedIn e → ∃ t, expected.validate d = .ok t

/-- The values of subqueries pass validation where that of the expression itself does, if it is a
subquery, and those in its parts do. -/
theorem answerable_iff {e : Expr} :
    e.Answerable d ↔
      (∀ query expected, e = .subquery query expected → ∃ t, expected.validate d = .ok t) ∧
        ∀ p ∈ e.evaluatedParts, p.Answerable d := by
  constructor
  · intro answers
    constructor
    · rintro query expected rfl
      exact answers query expected (.self _)
    · intro p mem query expected evaluated
      exact answers query expected (.part mem evaluated)
  · rintro ⟨own, below⟩ query expected evaluated
    generalize same : subquery query expected = n at evaluated
    cases evaluated with
    | self => exact own query expected same.symm
    | part mem inner => exact below _ mem query expected (same ▸ inner)

/-- All that is evaluated in an expression can be written exactly where the expression passes
validation and the values of its subqueries do. -/
theorem render_of_evaluatedIn_iff {e : Expr} :
    (∀ n : Expr, n.EvaluatedIn e → ∃ t, n.render d = .ok t) ↔
      (∃ t, e.validate d = .ok t) ∧ e.Answerable d := by
  simp only [Answerable, validate_eq_ok]
  constructor
  · intro all
    refine ⟨all e (.self e), fun query expected evaluated => all expected ?_⟩
    have below : expected.EvaluatedIn (subquery query expected) :=
      .part (List.mem_singleton.mpr rfl) (.self expected)
    exact below.trans evaluated
  · rintro ⟨⟨t, rendered⟩, answers⟩ n evaluated
    induction evaluated generalizing t with
    | self => exact ⟨t, rendered⟩
    | part mem inner ih =>
        have below := fun query expected evaluated => answers query expected (.part mem evaluated)
        rcases mem_writtenParts_of_mem_evaluatedParts mem with written | ⟨query, rfl⟩
        · obtain ⟨u, renderedPart⟩ := render_of_mem_writtenParts rendered written
          exact ih below u renderedPart
        · obtain ⟨u, renderedPart⟩ := answers query _ (.self _)
          exact ih below u renderedPart

theorem mem_evaluatedParts_of_mem_tracedParts {p e : Expr} (mem : p ∈ e.tracedParts) :
    p ∈ e.evaluatedParts := by
  cases e with
  | existsRow negated query => exact List.mem_append_right _ mem
  | _ => exact mem

/-- What a trace shows is evaluated. -/
theorem evaluatedIn_of_mem_traced {n e : Expr} (mem : n ∈ e.traced) : n.EvaluatedIn e := by
  induction e using induction_parts with
  | step e ih =>
      rcases mem_traced mem with rfl | ⟨p, part, below⟩
      · exact .self n
      · have inner := ih p (mem_parts_of_mem_tracedParts part) below
        exact .part (mem_evaluatedParts_of_mem_tracedParts part) inner

/-- The line of an expression that can be written does not fail for want of a way to write it. -/
theorem traceLine_ne_unsupported {style : TraceStyle} {e : Expr} {t : Text}
    (rendered : e.render d = .ok t) (c : Construct) (d' : Dialect) :
    traceLine style d e ≠ .error (.unsupported c d') := by
  intro failed
  simp only [traceLine, annotation, rendered] at failed
  cases outcome : e.evaluate d with
  | ok v =>
      rw [outcome] at failed
      cases failed
  | error f =>
      rw [outcome] at failed
      cases f with
      | unsupported c' d'' => exact evaluate_ne_unsupported e c' d'' outcome
      | _ => cases failed

/-- Only a call of a function that the dialect lacks brings about that the function is missing. -/
theorem OwnFault.unregistered {n : Expr} {f : FunctionName} {d' : Dialect}
    (own : n.OwnFault d (.unregistered f d')) (t : Text) : n.render d ≠ .ok t := by
  intro rendered
  cases own with
  | @lacking f' arguments _ lacking =>
      obtain ⟨form, called, _⟩ := bind_eq_ok.mp rendered
      obtain ⟨definition, found⟩ := (definitionOf_iff_callForm f').mpr ⟨form, called⟩
      rw [found] at lacking
      cases lacking
  | @argumentCount f' arguments definition _ found refused =>
      unfold FunctionDefinition.checkCount at refused
      split at refused <;> cases refused

/-- Validation guards predictions and traces. Where an expression passes it, and so do the values
that its subqueries are made to have, all that is evaluated or traced can be written in the dialect;
the prediction does not come upon a function that the dialect lacks, and the trace does not break
off for want of a way to write something. -/
theorem validate_guards {e : Expr} {t : Text} (accepted : e.validate d = .ok t)
    (answers : e.Answerable d) (style : TraceStyle) :
    (∀ n : Expr, n.EvaluatedIn e → ∃ u, n.validate d = .ok u) ∧
    (∀ f d', e.predict d ≠ .error (.fault (.unregistered f d'))) ∧
    (∀ c d', (e.visit style d).failure ≠ some (.unsupported c d')) ∧
    ∀ c d', e.trace style d ≠ .error (.unsupported c d') := by
  -- Validation writes all but the values that subqueries are made to have, and these are assumed to be written.
  have written := render_of_evaluatedIn_iff.mpr ⟨⟨t, accepted⟩, answers⟩
  have unbroken : ∀ c d', (e.visit style d).failure ≠ some (.unsupported c d') := by
    intro c d' broken
    rw [visit_eq] at broken
    obtain ⟨n, shown, failed⟩ := Trace.error_of_failure_ofLines broken
    obtain ⟨u, rendered⟩ := written n (evaluatedIn_of_mem_traced shown)
    exact traceLine_ne_unsupported rendered c d' failed
  refine ⟨fun n evaluated => ?_, fun f d' failed => ?_, unbroken, fun c d' failed => ?_⟩
  · obtain ⟨u, rendered⟩ := written n evaluated
    exact ⟨u, validate_eq_ok.mpr rendered⟩
  · obtain ⟨n, evaluated, own⟩ := ownFault_of_evaluate (predict_eq_error_iff.mp failed).1
    obtain ⟨u, rendered⟩ := written n evaluated
    exact own.unregistered u rendered
  · rw [trace, accepted] at failed
    change (e.visit style d).complete = _ at failed
    unfold Trace.complete at failed
    split at failed
    · cases failed
    · rename_i broken
      cases failed
      exact unbroken c d' broken

/-- A test of a subquery that is made to have the magnitude of a column passes validation in SQLite,
and so does that value. -/
theorem validate_guards_magnitude :
    let c := Expr.column ⟨"c", "t", .integer⟩ (.int 1)
    let query : Select Expr := ⟨[c], [⟨"t", []⟩], [], none, [], none⟩
    let e := Expr.existsRow true ⟨[], [], [], some (.subquery query (.call .abs [c])), [], none⟩
    (∃ t, e.validate .sqlite = .ok t) ∧ e.Answerable .sqlite ∧
      (∀ f d, e.predict .sqlite ≠ .error (.fault (.unregistered f d))) ∧
      ∀ c d, e.trace {} .sqlite ≠ .error (.unsupported c d) := by
  intro c query e
  have accepted : e.validate .sqlite =
      .ok "NOT EXISTS (SELECT * WHERE (SELECT \"t\".\"c\" FROM \"t\"))" := rfl
  have column : c.Answerable .sqlite := answerable_iff.mpr ⟨nofun, nofun⟩
  have magnitude : (Expr.call .abs [c]).Answerable .sqlite :=
    answerable_iff.mpr ⟨nofun, List.forall_mem_singleton.mpr column⟩
  have answer : (Expr.subquery query (.call .abs [c])).Answerable .sqlite := by
    refine answerable_iff.mpr ⟨?_, List.forall_mem_singleton.mpr magnitude⟩
    rintro _ _ ⟨⟩
    exact ⟨_, rfl⟩
  have answers : e.Answerable .sqlite :=
    answerable_iff.mpr ⟨nofun, List.forall_mem_singleton.mpr answer⟩
  obtain ⟨_, predicted, _, traced⟩ := validate_guards accepted answers {}
  exact ⟨⟨_, accepted⟩, answers, predicted, traced⟩

/-- Without a guard on the values of subqueries, validation passes what a prediction or a trace
fails on: MySQL lacks the function of the first subquery's value, and the trace of the second one
breaks off after its first line, since SQLite lacks the connective. -/
theorem validate_passes_lacking :
    let query : Select Expr := ⟨[.constant .null], [], [], none, [], none⟩
    let choice := Expr.subquery query (.call .iif [.constant .null, .constant .null, .constant .null])
    let parity := Expr.subquery query (.connective .xor (.constant .null) (.constant .null))
    (choice.validate .mysql = .ok "(SELECT NULL)" ∧
      choice.predict .mysql = .error (.fault (.unregistered .iif .mysql))) ∧
    parity.validate .sqlite = .ok "(SELECT NULL)" ∧ parity.predict .sqlite = .ok (.value .null) ∧
      (parity.visit {} .sqlite).lines.length = 1 ∧
      parity.trace {} .sqlite = .error (.unsupported (.connective .xor) .sqlite) :=
  ⟨⟨rfl, rfl⟩, rfl, rfl, rfl, rfl⟩

end Expr

end PivotOracle
