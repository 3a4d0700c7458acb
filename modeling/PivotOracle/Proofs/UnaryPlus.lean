import PivotOracle.Proofs.Collation
import PivotOracle.Proofs.Compositionality
import PivotOracle.Proofs.ReadingLimits

/-!
# Unary plus

MySQL drops a unary plus while it parses, so that an expression with one should be predicted as without.
It has the same value. But two kinds of expression look at their operands beyond the values, and they do not
look through a plus: a comparison no longer sees that an operand names its collation, and a function that
chooses among its arguments no longer sees the declared type of a column.

* `FunctionName.chosen?`, `resultType` — the functions of MySQL that choose among their arguments, and the
  type that they give the chosen one.
* `sameOutcome_castToCommonType_iff` — the type of the result shows wherever the result is not null.
* `Expr.Place.SeesPlus` — a place in which a plus before an expression is seen.
* `Expr.unary_plus_unseen_iff` — in every other place, and in no such place, all trees around have the same
  outcome with a plus and without.
-/

namespace PivotOracle

/-! ### Functions that choose -/

/-- What a function of MySQL that chooses among its arguments chooses; none for the other functions. -/
def FunctionName.chosen? : FunctionName → Option (List Scalar → Except Failure Scalar)
  | .coalesce => some fun values => .ok (PivotOracle.coalesce values).castText
  | .ifElse => some fun values => do
    let condition ← argument values 0
    let l ← argument values 1
    let r ← argument values 2
    branchOn .mysql condition l r
  | .ifNull => some fun values => do
    let v ← argument values 0
    if v.isNull then argument values 1 else .ok v
  | _ => none

/-- The arguments among which a function chooses. -/
def FunctionName.branches {α : Type} (f : FunctionName) (arguments : List α) : List α :=
  match f with
  | .ifElse => (arguments.drop 1).take 2
  | _ => arguments

/-- The type that a function gives what it chooses: the most general one of the branches. -/
def resultType (f : FunctionName) (arguments : List Expr) (values : List Scalar) :
    Except Failure (Option ValueType) :=
  commonType ((f.branches (argumentTypes arguments values)).map .ok)

section Choice

variable {f : FunctionName} {definition : FunctionDefinition}

theorem branches_map {α β : Type} (f : FunctionName) (g : α → β) (arguments : List α) :
    f.branches (arguments.map g) = (f.branches arguments).map g := by
  cases f <;> simp [FunctionName.branches, List.map_take]

/-- A function that chooses gives what it chooses the most general type of the branches. -/
theorem evaluateCall_of_chosen? (found : definitionOf .mysql f = .ok definition)
    {choose : List Scalar → Except Failure Scalar} (choice : f.chosen? = some choose)
    (arguments : List Expr) (values : List Scalar) :
    evaluateCall definition arguments values = (do
      castToCommonType (← choose values) ((f.branches (argumentTypes arguments values)).map .ok)) := by
  rw [evaluateCall_eq, ← branches_map]
  cases f with
  | coalesce =>
      cases found
      cases choice
      rfl
  | ifElse =>
      cases found
      cases choice
      simp only [FunctionRule.mysqlIf, FunctionName.branches, bind_assoc]
  | ifNull =>
      cases found
      cases choice
      simp only [FunctionRule.mysqlIfNull, FunctionName.branches, bind_assoc]
      refine bind_congr fun v => ?_
      split <;> rfl
  | _ => cases choice

/-- The other functions do not look at types. -/
theorem evaluateCall_of_chosen?_eq_none (found : definitionOf .mysql f = .ok definition)
    (other : f.chosen? = none) (arguments arguments' : List Expr) (values : List Scalar) :
    evaluateCall definition arguments values = evaluateCall definition arguments' values := by
  cases f with
  | abs | bitCount | benchmark =>
      cases found
      rfl
  | iif => cases found
  | _ => cases other

end Choice

/-! ### The type of what is chosen -/

/-- A cast to an integer gives no text, and fails without a fault. -/
theorem Scalar.castSigned_yields_integer (v : Scalar) :
    Yields (fun f => ∀ g, f ≠ .fault g) (fun w => w.isText = false) v.castSigned := by
  cases v with
  | null => rfl
  | int n => rfl
  | text t =>
      refine Yields.bind ((readSigned_yields t).weaken ?_) fun _ _ => rfl
      rintro f (⟨reason, rfl⟩ | broken) g
      · exact nofun
      · rcases broken.kind with ⟨count, rfl⟩ | rfl <;> exact nofun

/-- A value that is not null as one of a type that so many others are of. There may be no type. -/
def Scalar.castToType (v : Scalar) (count : Nat) : Option ValueType → Except Failure Scalar
  | some .integer => v.castSigned
  | some .text => .ok v.castText
  | _ => .error (.fault (.noCommonType v count))

section Common

variable {v : Scalar} {count : Nat}

theorem castToCommonType_of_notNull (notNull : v.isNull = false) (types : List TypeResult) :
    castToCommonType v types = (do v.castToType types.length (← commonType types)) := by
  rw [castToCommonType, notNull]
  refine bind_congr fun common => ?_
  rcases common with _ | _ | _ | _ <;> rfl

/-- What is cast is a text exactly where the type is that of texts. -/
theorem castToType_eq_text_iff (notNull : v.isNull = false) {common : Option ValueType} :
    (∃ t, v.castToType count common = .ok (.text t)) ↔ common = some .text := by
  rcases common with _ | _ | _ | _
  · exact ⟨nofun, nofun⟩
  · exact ⟨nofun, nofun⟩
  · refine ⟨?_, nofun⟩
    rintro ⟨t, text⟩
    have signed := v.castSigned_yields_integer
    rw [show v.castSigned = _ from text] at signed
    cases signed
  · refine ⟨fun _ => rfl, fun _ => ?_⟩
    cases v with
    | null => cases notNull
    | int n => exact ⟨_, rfl⟩
    | text t => exact ⟨t, rfl⟩

/-- A cast fails with a fault exactly where there is no type to cast to. -/
theorem castToType_eq_fault_iff {common : Option ValueType} (typed : common ≠ some .null) :
    (∃ g, v.castToType count common = .error (.fault g)) ↔ common = none := by
  rcases common with _ | _ | _ | _
  · exact ⟨fun _ => rfl, fun _ => ⟨_, rfl⟩⟩
  · exact absurd rfl typed
  · refine ⟨?_, nofun⟩
    rintro ⟨g, fault⟩
    have signed := v.castSigned_yields_integer
    rw [show v.castSigned = _ from fault] at signed
    exact (signed g rfl).elim
  · refine ⟨?_, nofun⟩
    rintro ⟨g, fault⟩
    cases fault

/-- The type shows in what is cast to it. -/
theorem sameOutcome_castToType_iff (notNull : v.isNull = false) {common common' : Option ValueType}
    (typed : common ≠ some .null) (typed' : common' ≠ some .null) :
    SameOutcome (v.castToType count common) (v.castToType count common') ↔ common = common' := by
  constructor
  · intro same
    have text : common = some .text ↔ common' = some .text := by
      rw [← castToType_eq_text_iff notNull, ← castToType_eq_text_iff notNull]
      exact exists_congr fun t => same.eq_ok_iff _
    have none : common = none ↔ common' = none := by
      rw [← castToType_eq_fault_iff typed, ← castToType_eq_fault_iff typed']
      exact exists_congr fun g => same.eq_fault_iff g
    rcases common with _ | _ | _ | _ <;> rcases common' with _ | _ | _ | _ <;> simp_all
  · rintro rfl
    exact .refl _

/-- The most general type is never that of null. -/
theorem exists_commonType_eq (types : List ValueType) :
    ∃ common, commonType (types.map .ok) = .ok common ∧ common ≠ some .null := by
  refine ⟨_, commonType_eq types, ?_⟩
  split
  · exact nofun
  · split <;> exact nofun

/-- The most general of types shows in what is cast to it, unless that is null. -/
theorem sameOutcome_castToCommonType_iff {types types' : List ValueType}
    (lengths : types.length = types'.length) :
    SameOutcome (castToCommonType v (types.map .ok)) (castToCommonType v (types'.map .ok)) ↔
      (v.isNull = true ∨ commonType (types.map .ok) = commonType (types'.map .ok)) := by
  cases null : v.isNull with
  | true =>
      rw [castToCommonType, castToCommonType, null]
      exact ⟨fun _ => .inl rfl, fun _ => .refl _⟩
  | false =>
      obtain ⟨common, general, typed⟩ := exists_commonType_eq types
      obtain ⟨common', general', typed'⟩ := exists_commonType_eq types'
      rw [castToCommonType_of_notNull null, castToCommonType_of_notNull null, general, general',
        List.length_map, List.length_map, ← lengths]
      refine (sameOutcome_castToType_iff null typed typed').trans ?_
      simp

end Common

/-! ### Comparisons -/

/-- That a collation is named shows where two texts are compared whose order is certain otherwise. -/
theorem sameOutcome_apply_collated_iff {d : Dialect} {affinity : Bool} (op : ComparisonOperator)
    (v w : Scalar) :
    SameOutcome (op.apply d affinity false v w) (op.apply d affinity true v w) ↔
      ∀ a b order, v = .text a → w = .text b → compareText d a b ≠ .ok order := by
  rw [op.apply_collated]
  split
  · rename_i texts
    cases v with
    | text a =>
        cases w with
        | text b =>
            rw [op.apply_text]
            -- A certain order gives a value without the collation alone, an uncertain one neither way.
            cases ordered : compareText d a b with
            | ok order =>
                refine ⟨fun same => ?_, fun uncertain => absurd ordered (uncertain a b order rfl rfl)⟩
                cases (same.eq_ok_iff _).mp rfl
            | error f =>
                rw [compareText_eq_error ordered]
                refine ⟨?_, fun _ => .discarded _ _⟩
                rintro _ _ _ _ ⟨⟩ ⟨⟩ certain
                rw [ordered] at certain
                cases certain
        | _ => cases texts
    | _ => cases texts
  · rename_i notTexts
    refine ⟨?_, fun _ => .refl _⟩
    rintro _ a b order rfl rfl
    exact absurd rfl notTexts

namespace Expr

theorem evaluate_plus (d : Dialect) (e : Expr) : (unary .plus e).evaluate d = e.evaluate d := by
  rw [evaluate]
  cases e.evaluate d <;> rfl

/-- A comparison in terms of its operands, be they values or failures. -/
theorem evaluate_comparison_eq (d : Dialect) (op : ComparisonOperator) (l r : Expr) :
    (comparison op l r).evaluate d = (do
      let a ← l.evaluate d
      let b ← r.evaluate d
      op.apply d (l.carriesAffinity || r.carriesAffinity) (l.isCollated || r.isCollated) a b) := by
  rw [evaluate]

/-! ### Places that see a plus -/

/-- Two operands have texts as their values whose order is certain. -/
def ComparableTexts (l r : Expr) : Prop :=
  ∃ a b order, l.evaluate .mysql = .ok (.text a) ∧ r.evaluate .mysql = .ok (.text b) ∧
    compareText .mysql a b = .ok order

/-- A call of a function that chooses among its arguments, which have the values `values`, chooses `v`. -/
def Chooses (f : FunctionName) (arguments : List Expr) (values : List Scalar) (v : Scalar) : Prop :=
  ∃ definition choose, definitionOf .mysql f = .ok definition ∧
    definition.checkCount arguments.length = .ok () ∧ f.chosen? = some choose ∧
    evaluateArguments .mysql arguments = .ok values ∧ choose values = .ok v

/-- A frame in which a plus before an expression is seen. The expression names its collation, and alone of
two operands that could be compared without; or it is an argument of a function that chooses a value, and
with a plus the type of that value is another one. -/
def Frame.SeesPlus : Frame → Expr → Prop
  | .comparisonLeft _ r, e => e.isCollated = true ∧ r.isCollated = false ∧ ComparableTexts e r
  | .comparisonRight _ l, e => e.isCollated = true ∧ l.isCollated = false ∧ ComparableTexts l e
  | .call f before after, e =>
    ∃ values v, Chooses f (before ++ e :: after) values v ∧ v.isNull = false ∧
      resultType f (before ++ Expr.unary .plus e :: after) values ≠
        resultType f (before ++ e :: after) values
  | _, _ => False

/-- A place in which a plus before an expression is seen; it is one that is evaluated. -/
def Place.SeesPlus : Place → Expr → Prop
  | .evaluated frame, e => frame.SeesPlus e
  | _, _ => False

/-- The collation of an operand shows in a comparison where it is the only one that is named, and the texts
could be compared without. -/
theorem sameOutcome_comparison_iff {l r : Expr} {affinity : Bool} (op : ComparisonOperator)
    (named other : Bool) :
    SameOutcome (do op.apply .mysql affinity other (← l.evaluate .mysql) (← r.evaluate .mysql))
        (do op.apply .mysql affinity (named || other) (← l.evaluate .mysql) (← r.evaluate .mysql)) ↔
      ¬ (named = true ∧ other = false ∧ ComparableTexts l r) := by
  cases named with
  | false => exact ⟨fun _ => nofun, fun _ => .refl _⟩
  | true =>
      cases other with
      | true => exact ⟨fun _ => nofun, fun _ => .refl _⟩
      | false =>
          simp only [sameOutcome_bind_iff, Bool.or_false, sameOutcome_apply_collated_iff, ComparableTexts]
          constructor
          · rintro unseen ⟨_, _, a, b, order, left, right, certain⟩
            exact unseen _ left _ right a b order rfl rfl certain
          · rintro unseen _ left _ right a b order rfl rfl certain
            exact unseen ⟨trivial, trivial, a, b, order, left, right, certain⟩

theorem length_branches_argumentTypes (f : FunctionName) (before after : List Expr) (e e' : Expr)
    (values : List Scalar) :
    (f.branches (argumentTypes (before ++ e :: after) values)).length =
      (f.branches (argumentTypes (before ++ e' :: after) values)).length := by
  cases f <;> simp [FunctionName.branches, argumentTypes]

/-- The type of an argument shows in a call where a value is chosen and takes another type for it. -/
theorem sameOutcome_call_plus_iff (f : FunctionName) (before after : List Expr) (e : Expr) :
    SameOutcome ((call f (before ++ unary .plus e :: after)).evaluate .mysql)
        ((call f (before ++ e :: after)).evaluate .mysql) ↔
      ¬ (Frame.call f before after).SeesPlus e := by
  have same := evaluateArguments_congr outcomeCongruence_eq (evaluate_plus .mysql e) before after
  have length : (before ++ unary .plus e :: after).length = (before ++ e :: after).length := by simp
  rw [evaluate, evaluate, same, length]
  -- The arguments have the same values with the plus as without: what is left to compare are their types.
  simp only [sameOutcome_bind_iff]
  constructor
  · rintro unseen ⟨values, v, ⟨definition, choose, found, counted, choice, evaluated, chosen⟩, notNull,
      differs⟩
    have outcome := unseen definition found () counted values evaluated
    rw [evaluateCall_of_chosen? found choice, evaluateCall_of_chosen? found choice,
      sameOutcome_bind_iff] at outcome
    have lengths := length_branches_argumentTypes f before after (unary .plus e) e values
    rcases (sameOutcome_castToCommonType_iff lengths).mp (outcome v chosen) with null | types
    · rw [notNull] at null
      cases null
    · exact differs types
  · intro unseen definition found _ counted values evaluated
    cases choice : f.chosen? with
    | none =>
        rw [evaluateCall_of_chosen?_eq_none found choice (before ++ unary .plus e :: after)
          (before ++ e :: after)]
        exact .refl _
    | some choose =>
        rw [evaluateCall_of_chosen? found choice, evaluateCall_of_chosen? found choice,
          sameOutcome_bind_iff]
        intro v chosen
        have lengths := length_branches_argumentTypes f before after (unary .plus e) e values
        refine (sameOutcome_castToCommonType_iff lengths).mpr ?_
        by_contra! differs
        refine unseen ⟨values, v, ⟨definition, choose, found, counted, choice, evaluated, chosen⟩, ?_⟩
        exact ⟨Bool.eq_false_iff.mpr differs.1, differs.2⟩

/-- A plus before the expression in a frame shows where the frame sees it, and there alone. -/
theorem Frame.sameOutcome_plug_plus_iff (frame : Frame) (e : Expr) :
    SameOutcome ((frame.plug (.unary .plus e)).evaluate .mysql) ((frame.plug e).evaluate .mysql) ↔
      ¬ frame.SeesPlus e := by
  -- A frame that looks at the outcome alone sees no plus; the others look at collations or at types.
  cases inspects : frame.inspects with
  | false =>
      have same : SameOutcome ((frame.plug (.unary .plus e)).evaluate .mysql)
          ((frame.plug e).evaluate .mysql) := by
        refine Frame.evaluate_congr outcomeCongruence_sameOutcome ?_ inspects
        rw [evaluate_plus]
        exact .refl _
      constructor
      · intro _ sees
        cases frame with
        | comparisonLeft op r => cases inspects
        | comparisonRight op l => cases inspects
        | call f before after => cases inspects
        | _ => exact sees
      · intro _
        exact same
  | true =>
      cases frame with
      | comparisonLeft op r =>
          have same := evaluate_plus .mysql e
          rw [Frame.plug, Frame.plug, evaluate_comparison_eq, evaluate_comparison_eq, same]
          exact sameOutcome_comparison_iff op e.isCollated r.isCollated
      | comparisonRight op l =>
          have same := evaluate_plus .mysql e
          rw [Frame.plug, Frame.plug, evaluate_comparison_eq, evaluate_comparison_eq, same,
            Bool.or_comm l.isCollated, Bool.or_comm l.isCollated]
          exact sameOutcome_comparison_iff op e.isCollated l.isCollated
      | call f before after => exact sameOutcome_call_plus_iff f before after e
      | _ => cases inspects

/-- Only the name of a collation is seen, and the type of a column. -/
theorem Frame.SeesPlus.operand {frame : Frame} {e : Expr} (sees : frame.SeesPlus e) :
    e.isCollated = true ∨ ∃ c v, e = .column c v := by
  cases frame with
  | comparisonLeft op r => exact .inl sees.1
  | comparisonRight op l => exact .inl sees.1
  | call f before after =>
      refine .inr ?_
      by_contra! notColumn
      obtain ⟨values, v, _, _, differs⟩ := sees
      refine differs ?_
      have type (w : Scalar) : (Expr.unary .plus e).argumentType w = e.argumentType w := by
        cases e with
        | column c v => exact absurd rfl (notColumn c v)
        | _ => rfl
      rw [resultType, resultType, argumentTypes_congr type]
  | _ => exact sees.elim

/-- A plus before the expression in a place shows where the place sees it, and there alone. -/
theorem Place.sameOutcome_plug_plus_iff (place : Place) (e : Expr) :
    SameOutcome ((place.plug (.unary .plus e)).evaluate .mysql) ((place.plug e).evaluate .mysql) ↔
      ¬ place.SeesPlus e := by
  cases place with
  | evaluated frame => exact frame.sameOutcome_plug_plus_iff e
  | inExists negated frame =>
      constructor
      · intro _ sees
        exact sees
      · intro unseen
        cases frame with
        | column query before after => exact .refl _
        | join query before table kind after =>
            let frame := Frame.existsJoin negated query before table kind after
            exact (frame.sameOutcome_plug_plus_iff e).mpr unseen
        | filter query =>
            exact ((Frame.existsFilter negated query).sameOutcome_plug_plus_iff e).mpr unseen
        | sort query before order after => exact .refl _
  | inSubquery frame expected => exact ⟨fun _ sees => sees, fun _ => .refl _⟩

/-- A plus before an expression leaves the outcome of every tree around it in MySQL as it is, but in a place
that sees the plus, and only an expression that names its collation or is a column has such a place. -/
theorem unary_plus_unseen_iff (place : Place) (e : Expr) :
    ((∀ outer : List Place,
      SameOutcome ((fillPlaces outer (place.plug (.unary .plus e))).evaluate .mysql)
        ((fillPlaces outer (place.plug e)).evaluate .mysql)) ↔ ¬ place.SeesPlus e) ∧
    (place.SeesPlus e → e.isCollated = true ∨ ∃ c v, e = .column c v) := by
  constructor
  · constructor
    · intro all
      exact (place.sameOutcome_plug_plus_iff e).mp (all [])
    · intro unseen outer
      have alike : Alike SameOutcome .mysql (place.plug (.unary .plus e)) (place.plug e) :=
        ⟨(place.sameOutcome_plug_plus_iff e).mpr unseen, nofun, place.isCollated_plug _ _,
          place.argumentType_plug _ _⟩
      exact (alike.fillPlaces outcomeCongruence_sameOutcome outer).value
  · intro sees
    cases place with
    | evaluated frame => exact sees.operand
    | _ => exact sees.elim

/-- With a plus, COALESCE of a column of texts that is null gives a number and not a text, and a comparison
with a text that names its collation has a value. -/
theorem unary_plus_seen :
    let column := Expr.column ⟨"c", "t", .text⟩ .null
    let five := Scalar.int ⟨5, by decide⟩
    let collated := Expr.collate (.constant (.text "abc")) "utf8mb4_bin"
    let text := Expr.constant (.text "ABC")
    (call .coalesce [column, .constant five]).predict .mysql = .ok (.value (.text "5")) ∧
      (call .coalesce [unary .plus column, .constant five]).predict .mysql = .ok (.value five) ∧
      (comparison .eq collated text).predict .mysql =
        .ok (.discarded (.explicitCollation (.text "abc") (.text "ABC"))) ∧
      (comparison .eq (unary .plus collated) text).predict .mysql = .ok (.value (.int 1)) := by
  decide

end Expr

end PivotOracle
