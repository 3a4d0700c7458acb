import PivotOracle.Proofs.Evaluation
import PivotOracle.Proofs.Numeral

/-!
# Compositionality

What an expression does to the outcome of an evaluation around it is a matter of its value, and of
little else: whether it carries an affinity, in SQLite, whether it names its collation, and the type
that its column is declared with. An expression without these may be replaced by its value wherever it is
evaluated.

* `Expr.Frame`, `Expr.fill` — an expression with one evaluated place left open, and a tree around
  such a place.
* `Expr.evaluatedIn_iff` — these are the trees around all that is evaluated in an expression.
* `Expr.Place`, `Expr.within_iff_fillPlaces` — the same of all that stands in an expression.
* `Expr.Alike.plug`, `Expr.Alike.fillPlaces` — alike expressions have alike outcomes in every frame and
  in every tree, be it the same ones or the same kind of failure.
* `Expr.Interchangeable.fill` — interchangeable expressions have the same outcome in every tree.
* `Expr.evaluate_safe` — a value reads the same everywhere, and so does a constant of it.
* `Expr.evaluate_fill_constant` — an expression may be replaced by its value.
-/

namespace PivotOracle

namespace Expr

/-! ### Frames -/

/-- An expression with one evaluated place left open. -/
inductive Frame where
  | unary (op : UnaryOperator)
  | postfixTest (op : PostfixTest)
  | arithmeticLeft (op : ArithmeticOperator) (r : Expr)
  | arithmeticRight (op : ArithmeticOperator) (l : Expr)
  | comparisonLeft (op : ComparisonOperator) (r : Expr)
  | comparisonRight (op : ComparisonOperator) (l : Expr)
  | connectiveLeft (op : Connective) (r : Expr)
  | connectiveRight (op : Connective) (l : Expr)
  | collate (collation : Text)
  | cast (target : CastTarget)
  | betweenSubject (negated : Bool) (low high : Expr)
  | betweenLow (negated : Bool) (subject high : Expr)
  | betweenHigh (negated : Bool) (subject low : Expr)
  | isInSubject (negated : Bool) (candidates : List Expr)
  | isInCandidate (negated : Bool) (subject : Expr) (before after : List Expr)
  | sortTerm (order : SortOrder)
  | join (table : SourceTable) (kind : JoinKind)
  /-- The condition of a join in a test for rows; `query` has the rest of the statement. -/
  | existsJoin (negated : Bool) (query : Select Expr) (before : List (JoinClause Expr))
      (table : SourceTable) (kind : JoinKind) (after : List (JoinClause Expr))
  /-- The condition on rows in a test for them; `query` has the rest of the statement. -/
  | existsFilter (negated : Bool) (query : Select Expr)
  | subquery (query : Select Expr)
  | call (f : FunctionName) (before after : List Expr)

/-- The expression that a frame makes of the one in its open place. -/
def Frame.plug : Frame → Expr → Expr
  | .unary op, e => .unary op e
  | .postfixTest op, e => .postfixTest op e
  | .arithmeticLeft op r, e => .arithmetic op e r
  | .arithmeticRight op l, e => .arithmetic op l e
  | .comparisonLeft op r, e => .comparison op e r
  | .comparisonRight op l, e => .comparison op l e
  | .connectiveLeft op r, e => .connective op e r
  | .connectiveRight op l, e => .connective op l e
  | .collate collation, e => .collate e collation
  | .cast target, e => .cast e target
  | .betweenSubject negated low high, e => .between negated e low high
  | .betweenLow negated subject high, e => .between negated subject e high
  | .betweenHigh negated subject low, e => .between negated subject low e
  | .isInSubject negated candidates, e => .isIn negated e candidates
  | .isInCandidate negated subject before after, e => .isIn negated subject (before ++ e :: after)
  | .sortTerm order, e => .sortTerm ⟨e, order⟩
  | .join table kind, e => .join ⟨table, e, kind⟩
  | .existsJoin negated query before table kind after, e =>
    .existsRow negated { query with joins := before ++ ⟨table, e, kind⟩ :: after }
  | .existsFilter negated query, e => .existsRow negated { query with filter := some e }
  | .subquery query, e => .subquery query e
  | .call f before after, e => .call f (before ++ e :: after)

/-- The tree of frames, outer ones first, around an expression. -/
def fill (frames : List Frame) (e : Expr) : Expr := frames.foldr Frame.plug e

/-- Frames leave open every place that is evaluated. -/
theorem exists_frame {p e : Expr} (mem : p ∈ e.evaluatedParts) :
    ∃ frame : Frame, e = frame.plug p := by
  cases e with
  | constant v => cases mem
  | column c v => cases mem
  | typeName t => cases mem
  | unary op e =>
      cases List.mem_singleton.mp mem
      exact ⟨.unary op, rfl⟩
  | postfixTest op e =>
      cases List.mem_singleton.mp mem
      exact ⟨.postfixTest op, rfl⟩
  | arithmetic op l r =>
      rcases List.mem_pair.mp mem with rfl | rfl
      · exact ⟨.arithmeticLeft op r, rfl⟩
      · exact ⟨.arithmeticRight op l, rfl⟩
  | comparison op l r =>
      rcases List.mem_pair.mp mem with rfl | rfl
      · exact ⟨.comparisonLeft op r, rfl⟩
      · exact ⟨.comparisonRight op l, rfl⟩
  | connective op l r =>
      rcases List.mem_pair.mp mem with rfl | rfl
      · exact ⟨.connectiveLeft op r, rfl⟩
      · exact ⟨.connectiveRight op l, rfl⟩
  | collate e collation =>
      cases List.mem_singleton.mp mem
      exact ⟨.collate collation, rfl⟩
  | cast e target =>
      cases List.mem_singleton.mp mem
      exact ⟨.cast target, rfl⟩
  | between negated e low high =>
      simp only [evaluatedParts, parts, List.mem_cons, List.not_mem_nil, or_false] at mem
      rcases mem with rfl | rfl | rfl
      · exact ⟨.betweenSubject negated low high, rfl⟩
      · exact ⟨.betweenLow negated e high, rfl⟩
      · exact ⟨.betweenHigh negated e low, rfl⟩
  | isIn negated e candidates =>
      rcases List.mem_cons.mp mem with rfl | mem
      · exact ⟨.isInSubject negated candidates, rfl⟩
      · obtain ⟨before, after, rfl⟩ := List.append_of_mem mem
        exact ⟨.isInCandidate negated e before after, rfl⟩
  | sortTerm term =>
      cases List.mem_singleton.mp mem
      exact ⟨.sortTerm term.order, rfl⟩
  | join clause =>
      cases List.mem_singleton.mp mem
      exact ⟨.join clause.table clause.kind, rfl⟩
  | existsRow negated query =>
      obtain ⟨columns, tables, joins, filter, orderBy, limit⟩ := query
      rcases List.mem_append.mp mem with mem | mem
      · obtain ⟨clause, joined, rfl⟩ := List.mem_map.mp mem
        obtain ⟨before, after, split⟩ := List.append_of_mem joined
        cases split
        exact ⟨.existsJoin negated ⟨columns, tables, [], filter, orderBy, limit⟩ before clause.table
          clause.kind after, rfl⟩
      · cases Option.mem_toList.mp mem
        exact ⟨.existsFilter negated ⟨columns, tables, joins, none, orderBy, limit⟩, rfl⟩
  | subquery query expected =>
      cases List.mem_singleton.mp mem
      exact ⟨.subquery query, rfl⟩
  | call f arguments =>
      obtain ⟨before, after, rfl⟩ := List.append_of_mem mem
      exact ⟨.call f before after, rfl⟩

theorem mem_evaluatedParts_plug (frame : Frame) (e : Expr) : e ∈ (frame.plug e).evaluatedParts := by
  cases frame <;> simp [Frame.plug, evaluatedParts, parts]

/-- What is evaluated in a tree is what frames leave open in it. -/
theorem evaluatedIn_iff {n e : Expr} : n.EvaluatedIn e ↔ ∃ frames, e = fill frames n := by
  constructor
  · intro evaluated
    induction evaluated with
    | self => exact ⟨[], rfl⟩
    | part mem _ ih =>
        obtain ⟨frames, rfl⟩ := ih
        obtain ⟨frame, rfl⟩ := exists_frame mem
        exact ⟨frame :: frames, rfl⟩
  · rintro ⟨frames, rfl⟩
    induction frames with
    | nil => exact .self n
    | cons frame frames ih => exact .part (mem_evaluatedParts_plug frame _) ih

/-! ### Places -/

/-- A statement with one place left open. -/
inductive SelectFrame where
  | column (query : Select Expr) (before after : List Expr)
  | join (query : Select Expr) (before : List (JoinClause Expr)) (table : SourceTable)
      (kind : JoinKind) (after : List (JoinClause Expr))
  | filter (query : Select Expr)
  | sort (query : Select Expr) (before : List (SortTerm Expr)) (order : SortOrder)
      (after : List (SortTerm Expr))

/-- The statement that a frame makes of the expression in its open place. -/
def SelectFrame.plug : SelectFrame → Expr → Select Expr
  | .column query before after, e => { query with columns := before ++ e :: after }
  | .join query before table kind after, e =>
    { query with joins := before ++ ⟨table, e, kind⟩ :: after }
  | .filter query, e => { query with filter := some e }
  | .sort query before order after, e => { query with orderBy := before ++ ⟨e, order⟩ :: after }

/-- An expression with one place left open, be the place evaluated or not. -/
inductive Place where
  | evaluated (frame : Frame)
  | inExists (negated : Bool) (frame : SelectFrame)
  | inSubquery (frame : SelectFrame) (expected : Expr)

/-- The expression that a place makes of the one in it. -/
def Place.plug : Place → Expr → Expr
  | .evaluated frame, e => frame.plug e
  | .inExists negated frame, e => .existsRow negated (frame.plug e)
  | .inSubquery frame expected, e => .subquery (frame.plug e) expected

/-- The tree of places, outer ones first, around an expression. -/
def fillPlaces (places : List Place) (e : Expr) : Expr := places.foldr Place.plug e

theorem exists_selectFrame {p : Expr} {query : Select Expr} (mem : p ∈ query.parts) :
    ∃ frame : SelectFrame, query = frame.plug p := by
  obtain ⟨columns, tables, joins, filter, orderBy, limit⟩ := query
  simp only [Select.parts, List.mem_append, List.mem_map, Option.mem_toList] at mem
  rcases mem with ((mem | ⟨clause, mem, rfl⟩) | mem) | ⟨term, mem, rfl⟩
  · obtain ⟨before, after, rfl⟩ := List.append_of_mem mem
    exact ⟨.column ⟨[], tables, joins, filter, orderBy, limit⟩ before after, rfl⟩
  · obtain ⟨before, after, rfl⟩ := List.append_of_mem mem
    exact ⟨.join ⟨columns, tables, [], filter, orderBy, limit⟩ before clause.table clause.kind after, rfl⟩
  · cases mem
    exact ⟨.filter ⟨columns, tables, joins, none, orderBy, limit⟩, rfl⟩
  · obtain ⟨before, after, rfl⟩ := List.append_of_mem mem
    exact ⟨.sort ⟨columns, tables, joins, filter, [], limit⟩ before term.order after, rfl⟩

/-- Every part of an expression stands in a place of it. -/
theorem exists_place {p e : Expr} (mem : p ∈ e.parts) : ∃ place : Place, e = place.plug p := by
  have evaluated (mem : p ∈ e.evaluatedParts) : ∃ place : Place, e = place.plug p := by
    obtain ⟨frame, same⟩ := exists_frame mem
    exact ⟨.evaluated frame, same⟩
  cases e with
  | existsRow negated query =>
      obtain ⟨frame, rfl⟩ := exists_selectFrame mem
      exact ⟨.inExists negated frame, rfl⟩
  | subquery query expected =>
      rcases List.mem_cons.mp mem with rfl | mem
      · exact evaluated (List.mem_singleton.mpr rfl)
      · obtain ⟨frame, rfl⟩ := exists_selectFrame mem
        exact ⟨.inSubquery frame expected, rfl⟩
  | _ => exact evaluated mem

theorem mem_parts_plug (place : Place) (e : Expr) : e ∈ (place.plug e).parts := by
  have select (frame : SelectFrame) : e ∈ (frame.plug e).parts := by
    cases frame <;> simp [SelectFrame.plug, Select.parts]
  cases place with
  | evaluated frame => exact mem_parts_of_mem_evaluatedParts (mem_evaluatedParts_plug frame e)
  | inExists negated frame => exact select frame
  | inSubquery frame expected => exact List.mem_cons_of_mem _ (select frame)

/-- What stands in a tree is what places leave open in it. -/
theorem within_iff_fillPlaces {n e : Expr} : n.Within e ↔ ∃ places, e = fillPlaces places n := by
  constructor
  · intro within
    induction within with
    | self => exact ⟨[], rfl⟩
    | part mem _ ih =>
        obtain ⟨places, rfl⟩ := ih
        obtain ⟨place, rfl⟩ := exists_place mem
        exact ⟨place :: places, rfl⟩
  · rintro ⟨places, rfl⟩
    induction places with
    | nil => exact .self n
    | cons place places ih => exact .part (mem_parts_plug place _) ih

/-! ### Alike expressions -/

/-- Expressions with related outcomes, of which evaluations around them see nothing else that differs. -/
structure Alike (R : {α : Type} → Except Failure α → Except Failure α → Prop) (d : Dialect)
    (e e' : Expr) : Prop where
  value : R (e.evaluate d) (e'.evaluate d)
  affinity : d = .sqlite → e.carriesAffinity = e'.carriesAffinity
  collated : e.isCollated = e'.isCollated
  type : ∀ v, e.argumentType v = e'.argumentType v

section Congruence

variable {R : {α : Type} → Except Failure α → Except Failure α → Prop} {d : Dialect} {e e' : Expr}

theorem evaluateAll_congr (keeps : OutcomeCongruence R) (value : R (e.evaluate d) (e'.evaluate d))
    (before after : List Expr) :
    R (evaluateAll d (before ++ e :: after)) (evaluateAll d (before ++ e' :: after)) := by
  induction before with
  | nil => exact keeps.bind value fun v => keeps.refl _
  | cons b before ih => exact keeps.bind (keeps.refl _) fun v => keeps.bind ih fun vs => keeps.refl _

theorem evaluateArguments_congr (keeps : OutcomeCongruence R)
    (value : R (e.evaluate d) (e'.evaluate d)) (before after : List Expr) :
    R (evaluateArguments d (before ++ e :: after)) (evaluateArguments d (before ++ e' :: after)) := by
  induction before with
  | nil => exact keeps.bind value fun v => keeps.refl _
  | cons b before ih =>
      refine keeps.bind (keeps.refl _) fun v => keeps.bind (keeps.refl _) fun _ => ?_
      exact keeps.bind ih fun vs => keeps.refl _

theorem bothHold_congr (keeps : OutcomeCongruence R) {first first' second second' : Except Failure Bool}
    (left : R first first') (right : R second second') :
    R (bothHold first second) (bothHold first' second') := by
  refine keeps.bind left fun holds => ?_
  cases holds with
  | false => exact keeps.refl _
  | true => exact right

theorem isSurelyTrue_congr (keeps : OutcomeCongruence R) {x y : Except Failure Scalar} (value : R x y) :
    R (isSurelyTrue d x) (isSurelyTrue d y) :=
  keeps.bind value fun _ => keeps.refl _

theorem joinsKeepPivot_congr (keeps : OutcomeCongruence R) (value : R (e.evaluate d) (e'.evaluate d))
    (before after : List (JoinClause Expr)) (table : SourceTable) (kind : JoinKind) :
    R (joinsKeepPivot d (before ++ ⟨table, e, kind⟩ :: after))
      (joinsKeepPivot d (before ++ ⟨table, e', kind⟩ :: after)) := by
  induction before with
  | nil => exact bothHold_congr keeps (isSurelyTrue_congr keeps value) (keeps.refl _)
  | cons clause before ih =>
      simp only [List.cons_append, joinsKeepPivot_cons]
      exact bothHold_congr keeps (keeps.refl _) ih

/-- A test for rows asks no more of a statement than whether it keeps the pivot row. -/
theorem evaluate_existsRow_congr (keeps : OutcomeCongruence R) {query query' : Select Expr}
    (rows : R (query.keepsPivot d) (query'.keepsPivot d)) (negated : Bool) :
    R ((existsRow negated query).evaluate d) ((existsRow negated query').evaluate d) := by
  rw [evaluate_existsRow, evaluate_existsRow]
  exact keeps.bind rows fun _ => keeps.refl _

theorem argumentTypes_congr (type : ∀ v, e.argumentType v = e'.argumentType v)
    (before after : List Expr) (values : List Scalar) :
    argumentTypes (before ++ e :: after) values = argumentTypes (before ++ e' :: after) values := by
  have types (es : List Expr) : argumentTypes es values =
      List.zipWith (fun type v => type v) (es.map argumentType) values := by
    rw [argumentTypes, List.zipWith_map_left]
  have same : e.argumentType = e'.argumentType := funext type
  rw [types, types, List.map_append, List.map_append, List.map_cons, List.map_cons, same]

/-- Functions see of their arguments no more than values and types. -/
theorem evaluateCall_congr (type : ∀ v, e.argumentType v = e'.argumentType v)
    (definition : FunctionDefinition) (before after : List Expr) (values : List Scalar) :
    evaluateCall definition (before ++ e :: after) values =
      evaluateCall definition (before ++ e' :: after) values := by
  rw [evaluateCall_eq, evaluateCall_eq, argumentTypes_congr type]

/-- A comparison looks at affinities in SQLite alone. -/
theorem apply_comparison_congr {affinity affinity' : Bool}
    (same : d = .sqlite → affinity = affinity') (op : ComparisonOperator) (collated : Bool)
    (a b : Scalar) : op.apply d affinity collated a b = op.apply d affinity' collated a b := by
  cases d with
  | mysql =>
      have order : compareValues .mysql affinity a b = compareValues .mysql affinity' a b := rfl
      simp only [ComparisonOperator.apply, order]
  | sqlite => rw [same rfl]

/-- Whether a frame looks at the expression in its open place beyond the value that it has. -/
def Frame.inspects : Frame → Bool
  | .comparisonLeft .. | .comparisonRight .. | .call .. => true
  | _ => false

/-- The outcome of a frame that does not look at the expression in it is a matter of its outcome. -/
theorem Frame.evaluate_congr (keeps : OutcomeCongruence R) (value : R (e.evaluate d) (e'.evaluate d))
    {frame : Frame} (plain : frame.inspects = false) :
    R ((frame.plug e).evaluate d) ((frame.plug e').evaluate d) := by
  have operand {β : Type} (next : Scalar → Except Failure β) :
      R (e.evaluate d >>= next) (e'.evaluate d >>= next) :=
    keeps.bind value fun _ => keeps.refl _
  have second {α β : Type} (first : Except Failure α) (next : α → Scalar → Except Failure β) :
      R (first >>= fun a => e.evaluate d >>= next a) (first >>= fun a => e'.evaluate d >>= next a) :=
    keeps.bind (keeps.refl _) fun a => operand (next a)
  cases frame with
  | comparisonLeft op r => cases plain
  | comparisonRight op l => cases plain
  | call f before after => cases plain
  | unary op => exact operand _
  | postfixTest op => exact operand _
  | arithmeticLeft op r => exact operand _
  | arithmeticRight op l => exact second _ _
  | connectiveLeft op r => exact operand _
  | connectiveRight op l => exact second _ _
  | collate collation => exact value
  | cast target => exact operand _
  | betweenSubject negated low high => exact operand _
  | betweenLow negated subject high => exact second _ _
  | betweenHigh negated subject low => exact keeps.bind (keeps.refl _) fun _ => second _ _
  | isInSubject negated candidates => exact operand _
  | isInCandidate negated subject before after =>
      refine keeps.bind (keeps.refl _) fun _ => ?_
      exact keeps.bind (evaluateAll_congr keeps value before after) fun _ => keeps.refl _
  | sortTerm order => exact value
  | join table kind => exact value
  | existsJoin negated query before table kind after =>
      refine evaluate_existsRow_congr keeps ?_ negated
      exact bothHold_congr keeps (joinsKeepPivot_congr keeps value ..) (keeps.refl _)
  | existsFilter negated query =>
      refine evaluate_existsRow_congr keeps ?_ negated
      exact bothHold_congr keeps (keeps.refl _) (isSurelyTrue_congr keeps value)
  | subquery query => exact value

theorem Frame.carriesAffinity_plug (affinity : e.carriesAffinity = e'.carriesAffinity) (frame : Frame) :
    (frame.plug e).carriesAffinity = (frame.plug e').carriesAffinity := by
  cases frame with
  | unary op =>
      cases op with
      | plus => exact affinity
      | minus => rfl
      | not => rfl
  | collate collation => exact affinity
  | sortTerm order => exact affinity
  | _ => rfl

theorem Place.isCollated_plug (place : Place) (e e' : Expr) :
    (place.plug e).isCollated = (place.plug e').isCollated := by
  cases place with
  | evaluated frame => cases frame <;> rfl
  | _ => rfl

theorem Place.argumentType_plug (place : Place) (e e' : Expr) (v : Scalar) :
    (place.plug e).argumentType v = (place.plug e').argumentType v := by
  cases place with
  | evaluated frame => cases frame <;> rfl
  | _ => rfl

/-- A frame does not tell alike expressions apart. -/
theorem Alike.plug (keeps : OutcomeCongruence R) (h : Alike R d e e') (frame : Frame) :
    Alike R d (frame.plug e) (frame.plug e') := by
  refine ⟨?_, fun sqlite => frame.carriesAffinity_plug (h.affinity sqlite),
    (Place.evaluated frame).isCollated_plug e e', (Place.evaluated frame).argumentType_plug e e'⟩
  -- Only comparisons and calls look at more than the outcome: at collation and affinity, or at types of arguments.
  cases inspects : frame.inspects with
  | false => exact Frame.evaluate_congr keeps h.value inspects
  | true =>
      cases frame with
      | comparisonLeft op r =>
          refine keeps.bind h.value fun a => keeps.bind (keeps.refl _) fun b => ?_
          rw [h.collated, apply_comparison_congr (fun sqlite => by rw [h.affinity sqlite])]
          exact keeps.refl _
      | comparisonRight op l =>
          refine keeps.bind (keeps.refl _) fun a => keeps.bind h.value fun b => ?_
          rw [h.collated, apply_comparison_congr (fun sqlite => by rw [h.affinity sqlite])]
          exact keeps.refl _
      | call f before after =>
          simp only [Frame.plug, evaluate, List.length_append, List.length_cons]
          refine keeps.bind (keeps.refl _) fun definition => keeps.bind (keeps.refl _) fun _ => ?_
          refine keeps.bind (evaluateArguments_congr keeps h.value before after) fun values => ?_
          rw [evaluateCall_congr h.type]
          exact keeps.refl _
      | _ => cases inspects

/-- No place tells alike expressions apart: what is not evaluated has no say at all. -/
theorem Alike.plugPlace (keeps : OutcomeCongruence R) (h : Alike R d e e') (place : Place) :
    Alike R d (place.plug e) (place.plug e') := by
  cases place with
  | evaluated frame => exact h.plug keeps frame
  | inExists negated frame =>
      cases frame with
      | column query before after => exact ⟨keeps.refl _, fun _ => rfl, rfl, fun _ => rfl⟩
      | join query before table kind after =>
          exact h.plug keeps (.existsJoin negated query before table kind after)
      | filter query => exact h.plug keeps (.existsFilter negated query)
      | sort query before order after => exact ⟨keeps.refl _, fun _ => rfl, rfl, fun _ => rfl⟩
  | inSubquery frame expected => exact ⟨keeps.refl _, fun _ => rfl, rfl, fun _ => rfl⟩

/-- Alike expressions have related outcomes in every tree. -/
theorem Alike.fillPlaces (keeps : OutcomeCongruence R) (h : Alike R d e e') (places : List Place) :
    Alike R d (fillPlaces places e) (fillPlaces places e') := by
  induction places with
  | nil => exact h
  | cons place places ih => exact ih.plugPlace keeps place

end Congruence

/-! ### Interchangeable expressions -/

/-- Expressions that evaluations around them do not tell apart in a dialect. -/
structure Interchangeable (d : Dialect) (e e' : Expr) : Prop where
  value : e.evaluate d = e'.evaluate d
  affinity : d = .sqlite → e.carriesAffinity = e'.carriesAffinity
  collated : e.isCollated = e'.isCollated
  type : ∀ v, e.argumentType v = e'.argumentType v

/-- A frame does not tell interchangeable expressions apart. -/
theorem Interchangeable.plug {d : Dialect} {e e' : Expr} (h : Interchangeable d e e')
    (frame : Frame) : Interchangeable d (frame.plug e) (frame.plug e') := by
  have alike : Alike (fun x y => x = y) d e e' := ⟨h.value, h.affinity, h.collated, h.type⟩
  obtain ⟨value, affinity, collated, type⟩ := alike.plug outcomeCongruence_eq frame
  exact ⟨value, affinity, collated, type⟩

/-- Interchangeable expressions have the same outcome in every tree. -/
theorem Interchangeable.fill {d : Dialect} {e e' : Expr} (h : Interchangeable d e e')
    (frames : List Frame) : Interchangeable d (fill frames e) (fill frames e') := by
  induction frames with
  | nil => exact h
  | cons frame frames ih => exact ih.plug frame

/-! ### Constants -/

/-- A value reads the same everywhere: its text, if it is one, starts with neither a newline nor a
period after blanks. -/
theorem evaluate_safe {d : Dialect} {e : Expr} {v : Scalar} (value : e.evaluate d = .ok v) :
    requireSafeStart v = .ok () := by
  have closed : Closed d (fun t => requireSafeStart (.text t) = .ok ()) fun _ => True := by
    refine ⟨fun n => requireSafeStart_ofInt n.val, fun _ _ => trivial, ?_, ?_, ?_⟩
    · exact fun _ t _ => .of_trivial _
    · exact fun _ t _ => .of_trivial _
    · exact fun _ t _ => .of_trivial _
  have outcome := evaluate_yields closed (e := e) ⟨fun t _ safe => safe, fun _ _ _ _ => trivial⟩
  rw [value] at outcome
  cases v with
  | null => rfl
  | int n => rfl
  | text t => exact outcome t rfl

/-- A constant of a value that an expression has has that value itself. -/
theorem evaluate_constant_of_evaluate {d : Dialect} {e : Expr} {v : Scalar}
    (value : e.evaluate d = .ok v) : (constant v).evaluate d = .ok v := by
  rw [evaluate, evaluate_safe value]
  rfl

/-- An expression that is no column and names no collation, nor in SQLite carries an affinity, is
interchangeable with its value. -/
theorem interchangeable_constant {d : Dialect} {e : Expr} {v : Scalar}
    (value : e.evaluate d = .ok v) (notColumn : ∀ c w, e ≠ .column c w)
    (notCollated : ∀ operand collation, e ≠ .collate operand collation)
    (affinity : d = .mysql ∨ e.carriesAffinity = false) :
    Interchangeable d (.constant v) e := by
  refine ⟨?_, fun sqlite => ?_, ?_, fun w => ?_⟩
  · rw [evaluate_constant_of_evaluate value, value]
  · rcases affinity with mysql | none
    · rw [mysql] at sqlite
      cases sqlite
    · exact none.symm
  · cases e with
    | collate operand collation => exact absurd rfl (notCollated operand collation)
    | _ => rfl
  · cases e with
    | column c w => exact absurd rfl (notColumn c w)
    | _ => rfl

/-- Evaluation is compositional: an expression that has a value may be replaced by that value wherever it
is evaluated, if it is no column, names no collation, and in SQLite carries no affinity. The outcome
around it stays the same, be it a value or a failure. -/
theorem evaluate_fill_constant {d : Dialect} {e : Expr} {v : Scalar} (value : e.evaluate d = .ok v)
    (notColumn : ∀ c w, e ≠ .column c w)
    (notCollated : ∀ operand collation, e ≠ .collate operand collation)
    (affinity : d = .mysql ∨ e.carriesAffinity = false) (frames : List Frame) :
    (fill frames (.constant v)).evaluate d = (fill frames e).evaluate d :=
  ((interchangeable_constant value notColumn notCollated affinity).fill frames).value

/-- A negation in a comparison with a column, in a condition that a call is made with. -/
theorem evaluate_fill_constant_negation :
    let e := Expr.unary .minus (.constant (.int 1))
    let v := Scalar.int ⟨-1, by decide⟩
    let column := Expr.column ⟨"c", "t", .text⟩ (.int 0)
    let frames : List Frame :=
      [.call .iif [] [.constant (.text "a"), .constant .null], .comparisonLeft .lt column]
    e.evaluate .sqlite = .ok v ∧
      (fill frames (.constant v)).evaluate .sqlite = (fill frames e).evaluate .sqlite := by
  intro e v column frames
  have value : e.evaluate .sqlite = .ok v := rfl
  have notColumn : ∀ c w, e ≠ .column c w := by simp [e]
  have notCollated : ∀ operand collation, e ≠ .collate operand collation := by simp [e]
  exact ⟨value, evaluate_fill_constant value notColumn notCollated (.inr rfl) frames⟩

end Expr

end PivotOracle
