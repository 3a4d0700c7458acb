import Mathlib.Data.List.Forall2
import PivotOracle.Proofs.Evaluation
import PivotOracle.Proofs.Numeral
import PivotOracle.Trace

/-!
# Traces and values

A trace goes through an expression in an order of its own, and evaluates each expression that it shows
anew. It agrees with the evaluation all the same: what a trace shows of an expression that has a value
has a value too.

* `Expr.traced` — the expressions that a trace shows.
* `Expr.visit_eq` — a trace is made of the lines of these expressions, in order.
* `Expr.evaluate_of_mem_traced` — each of them has a value where the whole expression has one.
* `Expr.visit_agrees` — so no line of the trace of an expression that has a value lacks a value.
-/

namespace PivotOracle

/-! ### Traces of lines -/

namespace Trace

/-- The trace of lines up to the first one that fails. -/
def ofLines (lines : List (Except Failure Text)) : Trace :=
  lines.foldr (fun line rest => (ofLine line).append rest) empty

@[simp] theorem ofLines_nil : ofLines [] = empty := rfl

@[simp] theorem ofLines_cons (line : Except Failure Text) (lines : List (Except Failure Text)) :
    ofLines (line :: lines) = (ofLine line).append (ofLines lines) := rfl

@[simp] theorem empty_append (t : Trace) : empty.append t = t := rfl

theorem append_assoc (a b c : Trace) : (a.append b).append c = a.append (b.append c) := by
  obtain ⟨lines, failure⟩ := a
  cases failure with
  | some f => rfl
  | none =>
      obtain ⟨linesB, failureB⟩ := b
      cases failureB with
      | some f => rfl
      | none => simp [append]

theorem ofLines_append (first second : List (Except Failure Text)) :
    ofLines (first ++ second) = (ofLines first).append (ofLines second) := by
  induction first with
  | nil => rfl
  | cons line first ih => simp [ih, append_assoc]

section Each

variable {α : Type} {line : α → Except Failure Text}

/-- Where no line fails, the trace has all of them and no failure. -/
theorem ofLines_of_forall {R : α → Text → Prop} {xs : List α}
    (each : ∀ x ∈ xs, ∃ t, line x = .ok t ∧ R x t) :
    (ofLines (xs.map line)).failure = none ∧ List.Forall₂ R xs (ofLines (xs.map line)).lines := by
  induction xs with
  | nil => exact ⟨rfl, .nil⟩
  | cons x xs ih =>
      obtain ⟨⟨t, written, related⟩, rest⟩ := List.forall_mem_cons.mp each
      obtain ⟨complete, all⟩ := ih rest
      rw [List.map_cons, ofLines_cons, written]
      exact ⟨complete, .cons related all⟩

/-- What stands in a trace of lines are the lines, each at its own place. -/
theorem eq_ok_of_mem_zip {xs : List α} {x : α} {t : Text}
    (mem : (x, t) ∈ xs.zip (ofLines (xs.map line)).lines) : line x = .ok t := by
  induction xs with
  | nil => cases mem
  | cons first xs ih =>
      rw [List.map_cons, ofLines_cons] at mem
      cases written : line first with
      | error f => simp [written, ofLine, append] at mem
      | ok s =>
          rw [written] at mem
          rcases List.mem_cons.mp mem with same | mem
          · cases same
            exact written
          · exact ih mem

/-- The failure that ends a trace of lines is that of one of them. -/
theorem error_of_failure_ofLines {xs : List α} {f : Failure}
    (failed : (ofLines (xs.map line)).failure = some f) : ∃ x ∈ xs, line x = .error f := by
  induction xs with
  | nil => cases failed
  | cons first xs ih =>
      rw [List.map_cons, ofLines_cons] at failed
      cases written : line first with
      | error g =>
          rw [written] at failed
          cases failed
          exact ⟨first, List.mem_cons_self, written⟩
      | ok t =>
          rw [written] at failed
          obtain ⟨x, mem, failing⟩ := ih failed
          exact ⟨x, List.mem_cons_of_mem _ mem, failing⟩

/-- A trace of lines that is not empty starts with the first one. -/
theorem lines_ofLines_cons {x : α} {xs : List α}
    (nonempty : (ofLines ((x :: xs).map line)).lines ≠ []) :
    ∃ t rest, line x = .ok t ∧ (ofLines ((x :: xs).map line)).lines = t :: rest := by
  rw [List.map_cons, ofLines_cons] at nonempty ⊢
  cases written : line x with
  | error f =>
      rw [written] at nonempty
      exact absurd rfl nonempty
  | ok t => exact ⟨t, _, rfl, rfl⟩

end Each

end Trace

namespace Expr

/-! ### What a trace shows -/

mutual

/-- The expressions that a trace shows: an expression before those in it. Of a statement it shows the
condition on rows, or the value that a subquery is made to have; the name of a type it leaves out. -/
def traced : Expr → List Expr
  | .typeName _ => []
  | e@(.constant _) | e@(.column _ _) => [e]
  | e@(.unary _ a) | e@(.postfixTest _ a) | e@(.collate a _) | e@(.cast a _) => e :: a.traced
  | e@(.arithmetic _ l r) | e@(.comparison _ l r) | e@(.connective _ l r) =>
    e :: (l.traced ++ r.traced)
  | e@(.between _ a low high) => e :: (a.traced ++ (low.traced ++ high.traced))
  | e@(.isIn _ a candidates) => e :: (a.traced ++ tracedAll candidates)
  | e@(.sortTerm ⟨a, _⟩) | e@(.join ⟨_, a, _⟩) => e :: a.traced
  | e@(.existsRow _ ⟨_, _, _, filter, _, _⟩) => e :: tracedFilter filter
  | e@(.subquery _ expected) => e :: expected.traced
  | e@(.call _ arguments) => e :: tracedAll arguments

/-- What a trace shows of expressions, in order. -/
def tracedAll : List Expr → List Expr
  | [] => []
  | e :: rest => e.traced ++ tracedAll rest

/-- What a trace shows of a condition on rows, if there is one. -/
def tracedFilter : Option Expr → List Expr
  | none => []
  | some condition => condition.traced

end

/-- The parts of an expression that a trace goes into. -/
def tracedParts : Expr → List Expr
  | .existsRow _ query => query.filter.toList
  | .subquery _ expected => [expected]
  | e => e.parts

theorem mem_parts_of_mem_tracedParts {p e : Expr} (mem : p ∈ e.tracedParts) : p ∈ e.parts := by
  cases e with
  | existsRow negated query => exact Select.filter_mem_parts (Option.mem_toList.mp mem)
  | subquery query expected => exact List.mem_cons.mpr (.inl (List.mem_singleton.mp mem))
  | _ => exact mem

theorem tracedAll_eq (es : List Expr) : tracedAll es = es.flatMap traced := by
  induction es with
  | nil => rfl
  | cons e es ih => rw [tracedAll, ih, List.flatMap_cons]

/-- A trace shows an expression first, unless it is the name of a type, and then its parts. -/
theorem traced_eq_cons {e : Expr} (notType : ∀ t, e ≠ .typeName t) :
    e.traced = e :: e.tracedParts.flatMap traced := by
  cases e with
  | typeName t => exact absurd rfl (notType t)
  | isIn negated e candidates => simp [traced, tracedParts, parts, tracedAll_eq]
  | call f arguments => simp [traced, tracedParts, parts, tracedAll_eq]
  | existsRow negated query =>
      obtain ⟨columns, tables, joins, filter, orderBy, limit⟩ := query
      cases filter <;> simp [traced, tracedParts, tracedFilter]
  | sortTerm term => cases term; simp [traced, tracedParts, parts]
  | join clause => cases clause; simp [traced, tracedParts, parts]
  | _ => simp [traced, tracedParts, parts]

theorem mem_traced {n e : Expr} (mem : n ∈ e.traced) :
    n = e ∨ ∃ p ∈ e.tracedParts, n ∈ p.traced := by
  by_cases isType : ∃ t, e = .typeName t
  · obtain ⟨t, rfl⟩ := isType
    cases mem
  · rw [traced_eq_cons (not_exists.mp isType)] at mem
    rcases List.mem_cons.mp mem with same | below
    · exact .inl same
    · exact .inr (List.mem_flatMap.mp below)

variable (style : TraceStyle) (d : Dialect)

theorem visitAll_eq {es : List Expr}
    (each : ∀ e ∈ es, e.visit style d = Trace.ofLines (e.traced.map (traceLine style d))) :
    visitAll style d es = Trace.ofLines ((tracedAll es).map (traceLine style d)) := by
  induction es with
  | nil => rfl
  | cons e es ih =>
      obtain ⟨head, tail⟩ := List.forall_mem_cons.mp each
      rw [visitAll, head, ih tail, tracedAll, List.map_append, Trace.ofLines_append]

/-- A trace is made of the lines of the expressions that it shows, up to the first one that has no
line. -/
theorem visit_eq (e : Expr) :
    e.visit style d = Trace.ofLines (e.traced.map (traceLine style d)) := by
  induction e with
  | constant v => rfl
  | column c v => rfl
  | typeName t => rfl
  | unary op e ih => simp [visit, traced, traceNode, ih]
  | postfixTest op e ih => simp [visit, traced, traceNode, ih]
  | collate e collation ih => simp [visit, traced, traceNode, ih]
  | cast e target ih => simp [visit, traced, traceNode, ih]
  | arithmetic op l r ihl ihr =>
      simp [visit, traced, traceNode, ihl, ihr, Trace.ofLines_append]
  | comparison op l r ihl ihr =>
      simp [visit, traced, traceNode, ihl, ihr, Trace.ofLines_append]
  | connective op l r ihl ihr =>
      simp [visit, traced, traceNode, ihl, ihr, Trace.ofLines_append]
  | between negated e low high ih ihLow ihHigh =>
      simp [visit, traced, traceNode, ih, ihLow, ihHigh, Trace.ofLines_append]
  | isIn negated e candidates ih ihs =>
      simp [visit, traced, traceNode, ih, visitAll_eq style d ihs, Trace.ofLines_append]
  | sortTerm term ih =>
      cases term
      simp [visit, traced, traceNode, ih]
  | join clause ih =>
      cases clause
      simp [visit, traced, traceNode, ih]
  | existsRow negated query ih =>
      obtain ⟨columns, tables, joins, filter, orderBy, limit⟩ := query
      cases filter with
      | none => rfl
      | some condition =>
          have shown := ih condition (Select.filter_mem_parts rfl)
          simp [visit, traced, traceNode, visitFilter, tracedFilter, shown]
  | subquery query expected ihs ih => simp [visit, traced, traceNode, ih]
  | call f arguments ih => simp [visit, traced, traceNode, visitAll_eq style d ih]

/-! ### Values of what is shown -/

variable {style d}

theorem evaluate_of_evaluateAll {es : List Expr} {values : List Scalar}
    (evaluated : evaluateAll d es = .ok values) : ∀ e ∈ es, ∃ w, e.evaluate d = .ok w := by
  induction es generalizing values with
  | nil => exact nofun
  | cons e es ih =>
      obtain ⟨v, head, rest⟩ := bind_eq_ok.mp evaluated
      obtain ⟨tail, evaluatedTail, _⟩ := bind_eq_ok.mp rest
      exact List.forall_mem_cons.mpr ⟨⟨v, head⟩, ih evaluatedTail⟩

theorem evaluate_of_evaluateArguments {es : List Expr} {values : List Scalar}
    (evaluated : evaluateArguments d es = .ok values) : ∀ e ∈ es, ∃ w, e.evaluate d = .ok w := by
  induction es generalizing values with
  | nil => exact nofun
  | cons e es ih =>
      obtain ⟨v, head, rest⟩ := bind_eq_ok.mp evaluated
      obtain ⟨_, _, rest⟩ := bind_eq_ok.mp rest
      obtain ⟨tail, evaluatedTail, _⟩ := bind_eq_ok.mp rest
      exact List.forall_mem_cons.mpr ⟨⟨v, head⟩, ih evaluatedTail⟩

/-- Two conditions hold together where each of them holds, the second one too. -/
theorem bothHold_eq_true {first second : Except Failure Bool} :
    bothHold first second = .ok true ↔ first = .ok true ∧ second = .ok true := by
  constructor
  · intro both
    obtain ⟨b, holds, rest⟩ := bind_eq_ok.mp both
    cases b with
    | true => exact ⟨holds, rest⟩
    | false => cases rest
  · rintro ⟨rfl, rfl⟩
    rfl

/-- The condition of a test for rows that does not discard is looked at, though the test stops at the
first condition that does not hold: it discards there. -/
theorem evaluate_filter_of_existsRow {negated : Bool} {query : Select Expr} {v : Scalar}
    (value : (existsRow negated query).evaluate d = .ok v) {p : Expr} (mem : p ∈ query.filter) :
    ∃ w, p.evaluate d = .ok w := by
  rw [evaluate_existsRow] at value
  obtain ⟨kept, keeps, outcome⟩ := bind_eq_ok.mp value
  cases kept with
  | false => cases outcome
  | true =>
      obtain ⟨_, filtered⟩ := bothHold_eq_true.mp keeps
      rw [Option.mem_def.mp mem] at filtered
      obtain ⟨w, evaluated, _⟩ := bind_eq_ok.mp filtered
      exact ⟨w, evaluated⟩

/-- An operator of one operand has a value only where the operand has one. -/
theorem evaluate_operand {e : Expr} {apply : Scalar → Except Failure Scalar} {v : Scalar}
    (value : (e.evaluate d >>= apply) = .ok v) {p : Expr} (mem : p ∈ [e]) :
    ∃ w, p.evaluate d = .ok w := by
  obtain ⟨w, operand, _⟩ := bind_eq_ok.mp value
  cases List.mem_singleton.mp mem
  exact ⟨w, operand⟩

/-- An operator of two operands has a value only where both have one. -/
theorem evaluate_operands {l r : Expr} {apply : Scalar → Scalar → Except Failure Scalar} {v : Scalar}
    (value : (do apply (← l.evaluate d) (← r.evaluate d)) = .ok v) {p : Expr} (mem : p ∈ [l, r]) :
    ∃ w, p.evaluate d = .ok w := by
  obtain ⟨a, left, rest⟩ := bind_eq_ok.mp value
  obtain ⟨b, right, _⟩ := bind_eq_ok.mp rest
  rcases List.mem_pair.mp mem with rfl | rfl
  · exact ⟨a, left⟩
  · exact ⟨b, right⟩

/-- What has a value is made of parts that have one, as far as traces go into them. -/
theorem evaluate_of_mem_tracedParts {e : Expr} {v : Scalar} (value : e.evaluate d = .ok v)
    {p : Expr} (mem : p ∈ e.tracedParts) : ∃ w, p.evaluate d = .ok w := by
  cases e with
  | constant v => cases mem
  | column c v => cases mem
  | typeName t => cases mem
  | unary op e => exact evaluate_operand value mem
  | postfixTest op e => exact evaluate_operand value mem
  | cast e target => exact evaluate_operand value mem
  | arithmetic op l r => exact evaluate_operands value mem
  | comparison op l r => exact evaluate_operands value mem
  | connective op l r => exact evaluate_operands value mem
  | collate e collation =>
      cases List.mem_singleton.mp mem
      exact ⟨v, value⟩
  | between negated e low high =>
      obtain ⟨a, subject, rest⟩ := bind_eq_ok.mp value
      obtain ⟨b, lower, rest⟩ := bind_eq_ok.mp rest
      obtain ⟨c, upper, _⟩ := bind_eq_ok.mp rest
      simp only [tracedParts, parts, List.mem_cons, List.not_mem_nil, or_false] at mem
      rcases mem with rfl | rfl | rfl
      · exact ⟨a, subject⟩
      · exact ⟨b, lower⟩
      · exact ⟨c, upper⟩
  | isIn negated e candidates =>
      obtain ⟨a, subject, rest⟩ := bind_eq_ok.mp value
      obtain ⟨values, evaluated, _⟩ := bind_eq_ok.mp rest
      rcases List.mem_cons.mp mem with rfl | mem
      · exact ⟨a, subject⟩
      · exact evaluate_of_evaluateAll evaluated p mem
  | sortTerm term =>
      rw [evaluate_sortTerm] at value
      cases List.mem_singleton.mp mem
      exact ⟨v, value⟩
  | join clause =>
      rw [evaluate_join] at value
      cases List.mem_singleton.mp mem
      exact ⟨v, value⟩
  | existsRow negated query => exact evaluate_filter_of_existsRow value (Option.mem_toList.mp mem)
  | subquery query expected =>
      cases List.mem_singleton.mp mem
      exact ⟨v, value⟩
  | call f arguments =>
      obtain ⟨definition, _, rest⟩ := bind_eq_ok.mp value
      obtain ⟨_, _, rest⟩ := bind_eq_ok.mp rest
      obtain ⟨values, evaluated, _⟩ := bind_eq_ok.mp rest
      exact evaluate_of_evaluateArguments evaluated p mem

/-- What a trace shows of an expression that has a value has a value too. -/
theorem evaluate_of_mem_traced {e : Expr} {v : Scalar} (value : e.evaluate d = .ok v) {n : Expr}
    (mem : n ∈ e.traced) : ∃ w, n.evaluate d = .ok w := by
  induction e using induction_parts generalizing v with
  | step e ih =>
      rcases mem_traced mem with rfl | ⟨p, part, below⟩
      · exact ⟨v, value⟩
      · obtain ⟨w, evaluated⟩ := evaluate_of_mem_tracedParts value part
        exact ih p (mem_parts_of_mem_tracedParts part) evaluated below

/-! ### Lines -/

variable (style d)

/-- A line shows that an expression has a value. -/
def ShowsValue (e : Expr) (v : Scalar) (line : Text) : Prop :=
  ∃ sql, e.render d = .ok sql ∧ line = sql ++ style.separator.shown ++ d.literal v ++ "\n"

/-- A line shows that an expression has no certain value, and why. -/
def ShowsDiscard (e : Expr) (reason : Discard) (line : Text) : Prop :=
  ∃ sql, e.render d = .ok sql ∧
    line = sql ++ style.separator.shown ++ ("UNINFORMATIVE (" ++ reason.message ++ ")") ++ "\n"

variable {style d}

/-- The literal of a value starts as the wording of a discard never does. -/
theorem head?_literal_ne (v : Scalar) : (d.literal v).head? ≠ some (.char 'U') := by
  cases v with
  | null => cases d <;> decide
  | text t => exact nofun
  | int n =>
      obtain ⟨c, head, sign⟩ := head?_ofInt n.val
      change (Text.ofInt n.val).head? ≠ _
      rw [head]
      rcases sign with rfl | isDigit
      · decide
      · rintro ⟨⟩
        cases isDigit

/-- A line does not show both a value and a discard of one expression. -/
theorem ShowsValue.not_showsDiscard {e : Expr} {v : Scalar} {line : Text}
    (shown : e.ShowsValue style d v line) (reason : Discard) :
    ¬ e.ShowsDiscard style d reason line := by
  rintro ⟨sql, rendered, discard⟩
  obtain ⟨sql', rendered', value⟩ := shown
  rw [rendered] at rendered'
  cases rendered'
  rw [value] at discard
  have same : d.literal v = "UNINFORMATIVE (" ++ reason.message ++ ")" :=
    List.append_cancel_left (List.append_cancel_right discard)
  exact head?_literal_ne (d := d) v (by rw [same]; rfl)

/-- The line of an expression shows the outcome of its evaluation. -/
theorem traceLine_eq_ok {e : Expr} {line : Text} (written : traceLine style d e = .ok line) :
    (∃ v, e.evaluate d = .ok v ∧ e.ShowsValue style d v line) ∨
      ∃ reason, e.evaluate d = .error (.discard reason) ∧ e.ShowsDiscard style d reason line := by
  obtain ⟨value, annotated, rest⟩ := bind_eq_ok.mp written
  obtain ⟨sql, rendered, same⟩ := bind_eq_ok.mp rest
  cases same
  unfold annotation at annotated
  cases outcome : e.evaluate d with
  | ok v =>
      rw [outcome] at annotated
      cases annotated
      exact .inl ⟨v, rfl, sql, rendered, rfl⟩
  | error f =>
      rw [outcome] at annotated
      cases f with
      | discard reason =>
          cases annotated
          exact .inr ⟨reason, rfl, sql, rendered, rfl⟩
      | _ => cases annotated

/-- The line of an expression that has a value shows it, if the expression can be written. -/
theorem traceLine_of_evaluate {e : Expr} {v : Scalar} (value : e.evaluate d = .ok v) {sql : Text}
    (rendered : e.render d = .ok sql) :
    ∃ line, traceLine style d e = .ok line ∧ e.ShowsValue style d v line := by
  refine ⟨sql ++ style.separator.shown ++ d.literal v ++ "\n", ?_, sql, rendered, rfl⟩
  simp only [traceLine, annotation, value, rendered]
  rfl

/-- The line of an expression that has a value shows that value. -/
theorem showsValue_of_traceLine {e : Expr} {v : Scalar} (value : e.evaluate d = .ok v) {line : Text}
    (written : traceLine style d e = .ok line) : e.ShowsValue style d v line := by
  rcases traceLine_eq_ok written with ⟨w, evaluated, shown⟩ | ⟨reason, discarded, _⟩
  · rw [value] at evaluated
    cases evaluated
    exact shown
  · rw [value] at discarded
    cases discarded

/-- A trace that has lines starts with the line of the expression itself. -/
theorem visit_lines_eq_cons {e : Expr} (nonempty : (e.visit style d).lines ≠ []) :
    ∃ first rest, traceLine style d e = .ok first ∧ (e.visit style d).lines = first :: rest := by
  by_cases isType : ∃ t, e = .typeName t
  · obtain ⟨t, rfl⟩ := isType
    exact absurd rfl nonempty
  · rw [visit_eq, traced_eq_cons (not_exists.mp isType)] at nonempty ⊢
    exact Trace.lines_ofLines_cons nonempty

/-- Where an expression has a value, its trace is complete and shows values alone. -/
theorem visit_shows_values {e : Expr} {v : Scalar} (value : e.evaluate d = .ok v)
    (renders : ∀ n ∈ e.traced, ∃ sql, n.render d = .ok sql) :
    (e.visit style d).failure = none ∧
      List.Forall₂ (fun n line => ∃ w, n.evaluate d = .ok w ∧ n.ShowsValue style d w line)
        e.traced (e.visit style d).lines := by
  rw [visit_eq]
  refine Trace.ofLines_of_forall fun n mem => ?_
  obtain ⟨w, evaluated⟩ := evaluate_of_mem_traced value mem
  obtain ⟨sql, rendered⟩ := renders n mem
  obtain ⟨line, written, shown⟩ := traceLine_of_evaluate evaluated rendered
  exact ⟨line, written, w, evaluated, shown⟩

/-- The trace of an expression agrees with its evaluation, if what it shows can be written in the
dialect. Where the expression has a value, the trace is complete, every line shows the value of its
expression and no discard, and the first line shows the value of the whole. So a discard on any line
comes with one on the first line. -/
theorem visit_agrees (style : TraceStyle) (d : Dialect) (e : Expr)
    (renders : ∀ n ∈ e.traced, ∃ sql, n.render d = .ok sql) :
    (∀ v, e.evaluate d = .ok v →
      (e.visit style d).failure = none ∧
      List.Forall₂
        (fun n line => ∃ w, n.evaluate d = .ok w ∧ n.ShowsValue style d w line ∧
          ∀ reason, ¬ n.ShowsDiscard style d reason line)
        e.traced (e.visit style d).lines ∧
      ∃ first rest, (e.visit style d).lines = first :: rest ∧ e.ShowsValue style d v first) ∧
    (∀ n line reason, (n, line) ∈ e.traced.zip (e.visit style d).lines →
      n.ShowsDiscard style d reason line →
      ∃ first rest reason, (e.visit style d).lines = first :: rest ∧
        e.ShowsDiscard style d reason first) := by
  constructor
  · intro v value
    obtain ⟨complete, all⟩ := visit_shows_values value renders
    have nonempty : (e.visit style d).lines ≠ [] := by
      intro empty
      have notType : ∀ t, e ≠ .typeName t := by
        rintro t rfl
        cases value
      rw [empty, traced_eq_cons notType] at all
      cases all
    obtain ⟨first, rest, written, lines⟩ := visit_lines_eq_cons nonempty
    refine ⟨complete, all.imp fun n line h => ?_, first, rest, lines, ?_⟩
    · obtain ⟨w, evaluated, shown⟩ := h
      exact ⟨w, evaluated, shown, shown.not_showsDiscard⟩
    · exact showsValue_of_traceLine value written
  · intro n line reason mem shown
    obtain ⟨shows, printed⟩ := List.of_mem_zip mem
    obtain ⟨first, rest, written, lines⟩ := visit_lines_eq_cons (List.ne_nil_of_mem printed)
    rcases traceLine_eq_ok written with ⟨v, value, _⟩ | ⟨reason, _, discard⟩
    · -- Where the whole has a value, so has the expression on this line.
      obtain ⟨w, evaluated⟩ := evaluate_of_mem_traced value shows
      rw [visit_eq] at mem
      have other := showsValue_of_traceLine evaluated (Trace.eq_ok_of_mem_zip mem)
      exact absurd shown (other.not_showsDiscard reason)
    · exact ⟨first, rest, reason, lines, discard⟩

/-- The trace of a choice by a test for rows shows five expressions, and first of all the value of the
choice. -/
theorem visit_agrees_if_exists :
    let c := Expr.column ⟨"c", "t", .integer⟩ (.int 1)
    let query : Select Expr := ⟨[], [], [], some c, [], none⟩
    let e := Expr.call .ifElse [.existsRow false query, .constant (.text "a"), .constant .null]
    e.evaluate .mysql = .ok (.text "a") ∧ (e.visit {} .mysql).failure = none ∧
      e.traced.length = 5 ∧
      ∃ first rest, (e.visit {} .mysql).lines = first :: rest ∧
        e.ShowsValue {} .mysql (.text "a") first := by
  intro c query e
  have renders : ∀ n ∈ e.traced, ∃ sql, n.render .mysql = .ok sql := by
    intro n mem
    simp only [e, query, c, traced, tracedAll, tracedFilter, List.append_nil, List.cons_append,
      List.nil_append, List.mem_cons, List.not_mem_nil, or_false] at mem
    rcases mem with rfl | rfl | rfl | rfl | rfl <;> exact ⟨_, rfl⟩
  have value : e.evaluate .mysql = .ok (.text "a") := rfl
  obtain ⟨complete, _, shown⟩ := (visit_agrees {} .mysql e renders).1 _ value
  exact ⟨value, complete, rfl, shown⟩

end Expr

end PivotOracle
