import PivotOracle.Proofs.Rebuild
import PivotOracle.Proofs.TraceAgreement
import PivotOracle.Proofs.UnaryPlus

/-!
# Types of results

In MySQL, COALESCE, IFNULL and IF give what they choose the most general type of the candidates. A column
brings its declared type, whatever the row holds there. Any other candidate brings the type of its value,
and none where that is null, so that the row has a say in the type of the result: through what is null.

* `Expr.typeSource`, `Expr.typeSource_isOf` — where the type of an expression comes from, be it the kind of
  the expression or others in it.
* `Expr.datatype_eq_text_iff` — the most general type of candidates is that of texts where a candidate is one.
* `Expr.SameColumns` — two versions of a tree, over two rows.
* `Expr.Steady`, `Expr.Steady.datatype_eq` — where candidates are null in both versions or in neither, the
  types are the same.
* `Expr.datatype_call_eq_iff` — when two versions of a call have results of one type.
* `Expr.datatype_call_of_row` — they may have results of two.
-/

namespace PivotOracle

/-! ### Values that are no texts -/

namespace Scalar

/-- Values that are both not null have one type where both are texts or both are not. -/
theorem datatype_eq_iff {v w : Scalar} (notNull : v.isNull = false) (notNull' : w.isNull = false) :
    v.datatype = w.datatype ↔ (v.datatype = .text ↔ w.datatype = .text) := by
  cases v <;> cases w <;> simp_all [isNull, datatype]

theorem datatype_eq_null {v : Scalar} (null : v.isNull = true) : v.datatype = .null := by
  obtain rfl := isNull_iff.mp null
  rfl

/-- What is neither null nor a text is an integer. -/
theorem datatype_eq_integer {v : Scalar} (notNull : v.isNull = false) (notText : v.isText = false) :
    v.datatype = .integer := by
  cases v with
  | null => cases notNull
  | int n => rfl
  | text t => cases notText

end Scalar

/-- What is asked of a computation of which only the type of its value matters: it gives no text. -/
abbrev NotText (x : Except Failure Scalar) : Prop := Yields (fun _ => True) (fun v => v.isText = false) x

/-- Texts and failures of every kind. -/
theorem closed_trivial (d : Dialect) : Closed d (fun _ => True) fun _ => True :=
  ⟨fun _ => trivial, fun _ _ => trivial, fun _ _ _ => .of_trivial _, fun _ _ _ => .of_trivial _,
    fun _ _ _ => .of_trivial _⟩

theorem textIn_trivial (v : Scalar) : v.TextIn fun _ => True := fun _ _ => trivial

theorem NotText.after {α : Type} (x : Except Failure α) {f : α → Except Failure Scalar}
    (next : ∀ a, NotText (f a)) : NotText (x >>= f) :=
  (Yields.of_trivial x).bind fun a _ => next a

theorem Scalar.notText_ofInt (n : Int) : NotText (Scalar.ofInt n) := by
  unfold Scalar.ofInt
  split
  · rfl
  · trivial

theorem UnaryOperator.notText_apply {d : Dialect} {op : UnaryOperator} (notPlus : op ≠ .plus) (v : Scalar) :
    NotText (op.apply d v) := by
  cases op with
  | plus => exact absurd rfl notPlus
  | not => exact .after _ fun b => isText_ofTruth _
  | minus =>
      simp only [UnaryOperator.apply]
      split
      · rfl
      · exact .after _ fun n => bigintResult_yields (closed_trivial d) _

/-- A function of the integer that its argument is cast to makes no text, if it makes none of an integer. -/
theorem FunctionRule.notText_ofSigned {value : Bigint → Except Failure Scalar}
    (integer : ∀ n, NotText (value n)) (values : List Scalar) (types : List TypeResult) :
    NotText (ofSigned value values types) := by
  refine .after _ fun v => ?_
  split
  · rfl
  · exact .after _ fun w => .after _ integer

/-- The functions of MySQL that do not choose among their arguments make no texts. -/
theorem notText_evaluateCall {f : FunctionName} {definition : FunctionDefinition}
    (found : definitionOf .mysql f = .ok definition) (other : f.chosen? = none) (arguments : List Expr)
    (values : List Scalar) : NotText (evaluateCall definition arguments values) := by
  rw [evaluateCall_eq]
  generalize (argumentTypes arguments values).map Except.ok = types
  cases f with
  | abs =>
      cases found
      refine FunctionRule.notText_ofSigned (fun n => ?_) values types
      split
      · trivial
      · exact Scalar.notText_ofInt _
  | bitCount =>
      cases found
      exact FunctionRule.notText_ofSigned (fun n => Scalar.notText_ofInt _) values types
  | benchmark =>
      cases found
      refine FunctionRule.notText_ofSigned (fun n => ?_) values types
      split
      · rfl
      · exact Scalar.notText_ofInt _
  | iif => cases found
  | _ => cases other

theorem FunctionName.mem_of_mem_branches {α : Type} {f : FunctionName} {arguments : List α} {a : α}
    (mem : a ∈ f.branches arguments) : a ∈ arguments := by
  cases f with
  | ifElse => exact List.mem_of_mem_drop (List.mem_of_mem_take mem)
  | _ => exact mem

namespace Expr

/-! ### Where types come from -/

/-- Where the type of an expression comes from. -/
inductive TypeSource where
  /-- It is this one, unless the value is null. -/
  | fixed (t : ValueType)
  /-- It is that of the value that the row has; a candidate is of the type that is declared. -/
  | column (declared : ValueType)
  /-- It is that of the value of an operand. -/
  | operand (e : Expr)
  /-- It is the most general one of candidates. -/
  | common (candidates : List Expr)

/-- Where the type of an expression comes from in MySQL. -/
def typeSource : Expr → TypeSource
  | .constant v => .fixed v.datatype
  | .column c _ => .column c.datatype
  | .unary .plus e | .collate e _ => .operand e
  | .sortTerm term => .operand term.expression
  | .join clause => .operand clause.condition
  | .subquery _ expected => .operand expected
  | .cast _ .text => .fixed .text
  | .call f arguments =>
    match f.chosen? with
    | some _ => .common (f.branches arguments)
    | none => .fixed .integer
  | _ => .fixed .integer

/-- A source of types is that of an expression: it says of which type the value is in MySQL, unless that is
null, or which other expressions say so. -/
def TypeSource.IsOf (e : Expr) : TypeSource → Prop
  | .fixed t =>
    Yields (fun _ => True) (fun v => v.isNull = false → v.datatype = t) (e.evaluate .mysql)
  | .column t => ∃ c v, e = .column c v ∧ c.datatype = t
  | .operand o => e.evaluate .mysql = o.evaluate .mysql
  | .common candidates => ∃ f arguments choose, e = .call f arguments ∧ f.chosen? = some choose ∧
    candidates = f.branches arguments

/-- What gives no text is of the type of integers. -/
theorem TypeSource.isOf_integer {e : Expr} (notText : NotText (e.evaluate .mysql)) :
    (TypeSource.fixed .integer).IsOf e :=
  Yields.mono notText fun _ isText notNull => Scalar.datatype_eq_integer notNull isText

theorem typeSource_isOf (e : Expr) : e.typeSource.IsOf e := by
  have closed := closed_trivial .mysql
  have any := textIn_trivial
  cases e with
  | constant v =>
      refine (Yields.of_trivial (requireSafeStart v)).bind fun _ _ => ?_
      exact fun _ => rfl
  | column c v => exact ⟨c, v, rfl, rfl⟩
  | unary op e =>
      cases op with
      | plus => exact evaluate_plus .mysql e
      | not | minus =>
          exact TypeSource.isOf_integer (.after _ fun v => UnaryOperator.notText_apply (by decide) v)
  | postfixTest op e =>
      exact TypeSource.isOf_integer (.after _ fun v => op.apply_yields closed (any v))
  | arithmetic op l r =>
      refine TypeSource.isOf_integer (.after _ fun a => .after _ fun b => ?_)
      exact op.apply_yields closed (any a) (any b)
  | comparison op l r =>
      refine TypeSource.isOf_integer (.after _ fun a => .after _ fun b => ?_)
      exact op.apply_yields closed _ _ (any a) (any b)
  | connective op l r =>
      refine TypeSource.isOf_integer (.after _ fun a => .after _ fun b => ?_)
      exact op.apply_yields closed (any a) (any b)
  | collate e collation => exact rfl
  | typeName t => trivial
  | cast e target =>
      cases target with
      | signed =>
          refine TypeSource.isOf_integer (.after _ fun v => ?_)
          exact v.castSigned_yields_integer.weaken fun _ _ => trivial
      | text =>
          refine (Yields.of_trivial (e.evaluate .mysql)).bind fun v _ => ?_
          cases v with
          | null => exact nofun
          | _ => exact fun _ => rfl
  | between negated e low high =>
      refine TypeSource.isOf_integer (.after _ fun v => .after _ fun a => .after _ fun b => ?_)
      exact between_yields closed negated (any v) (any a) (any b)
  | isIn negated e candidates =>
      refine TypeSource.isOf_integer (.after _ fun v => .after _ fun values => ?_)
      exact isIn_yields closed negated (any v) fun c _ => any c
  | sortTerm term => exact evaluate_sortTerm .mysql term
  | join clause => exact evaluate_join .mysql clause
  | existsRow negated query =>
      refine TypeSource.isOf_integer ?_
      rw [evaluate_existsRow]
      refine .after _ fun kept => ?_
      split
      · rfl
      · trivial
  | subquery query expected => exact rfl
  | call f arguments =>
      simp only [typeSource]
      split
      · rename_i choose choice
        exact ⟨f, arguments, choose, rfl, choice, rfl⟩
      · rename_i other
        refine TypeSource.isOf_integer ?_
        refine (Yields.of_trivial (definitionOf .mysql f)).and_eq.bind fun definition found => ?_
        refine NotText.after _ fun _ => .after _ fun values => ?_
        exact notText_evaluateCall found.2 other arguments values

theorem isOf_of_typeSource_eq {e : Expr} {source : TypeSource} (same : e.typeSource = source) :
    source.IsOf e := by
  rw [← same]
  exact e.typeSource_isOf

/-- An expression has the value of the operand that its type comes from. -/
theorem evaluate_of_operand {e o : Expr} (source : e.typeSource = .operand o) :
    e.evaluate .mysql = o.evaluate .mysql :=
  isOf_of_typeSource_eq source

/-- The type that a candidate is declared to have, if it is a column. -/
def declared? (e : Expr) : Option ValueType :=
  match e.typeSource with
  | .column t => some t
  | _ => none

/-- A candidate with a declared type is of that type. -/
theorem type_of_declared {e : Expr} {t : ValueType} (declared : e.declared? = some t) : e.type = .ok t := by
  simp only [declared?] at declared
  split at declared
  · rename_i source
    obtain ⟨c, v, rfl, rfl⟩ := isOf_of_typeSource_eq source
    exact congrArg Except.ok (Option.some.inj declared)
  · cases declared

/-- The type of a candidate is the one that a call is told of it. -/
theorem type_eq_argumentType {e : Expr} {v : Scalar} (value : e.evaluate .mysql = .ok v) :
    e.type = .ok (e.argumentType v) := by
  cases e with
  | column c w => rfl
  | _ =>
      simp only [type, value]
      rfl

/-- A candidate without a declared type is of the type of its value. -/
theorem type_of_undeclared {e : Expr} {v : Scalar} (undeclared : e.declared? = none)
    (value : e.evaluate .mysql = .ok v) : e.type = .ok v.datatype := by
  rw [type_eq_argumentType value]
  cases e with
  | column c w => cases undeclared
  | _ => rfl

section Source

variable {e : Expr} {v : Scalar}

theorem typeSource_call {f : FunctionName} {choose : List Scalar → Except Failure Scalar}
    (choice : f.chosen? = some choose) (arguments : List Expr) :
    (call f arguments).typeSource = .common (f.branches arguments) := by
  simp only [typeSource, choice]

/-- The types of arguments that are evaluated are the types that the call is told. -/
theorem map_type_of_evaluateArguments {arguments : List Expr} {values : List Scalar}
    (evaluated : evaluateArguments .mysql arguments = .ok values) :
    arguments.map type = (argumentTypes arguments values).map .ok := by
  induction arguments generalizing values with
  | nil => simp [argumentTypes]
  | cons e arguments ih =>
      obtain ⟨v, value, rest⟩ := bind_eq_ok.mp evaluated
      obtain ⟨_, _, rest⟩ := bind_eq_ok.mp rest
      obtain ⟨tail, evaluatedTail, same⟩ := bind_eq_ok.mp rest
      cases same
      have types := ih evaluatedTail
      simp only [argumentTypes] at types
      simp [argumentTypes, type_eq_argumentType value, types]

/-- A value that takes the most general type of candidates is a text exactly where a candidate is of the
type of texts, unless it is null; and every candidate has a value too. -/
theorem datatype_eq_text_iff {candidates : List Expr} (source : e.typeSource = .common candidates)
    (value : e.evaluate .mysql = .ok v) (notNull : v.isNull = false) :
    (v.datatype = .text ↔ ∃ c ∈ candidates, c.type = .ok .text) ∧
      ∀ c ∈ candidates, ∃ w, c.evaluate .mysql = .ok w := by
  obtain ⟨f, arguments, choose, rfl, choice, rfl⟩ := isOf_of_typeSource_eq source
  obtain ⟨definition, found, rest⟩ := bind_eq_ok.mp value
  obtain ⟨_, _, rest⟩ := bind_eq_ok.mp rest
  obtain ⟨values, evaluated, outcome⟩ := bind_eq_ok.mp rest
  rw [evaluateCall_of_chosen? found choice] at outcome
  obtain ⟨u, _, cast⟩ := bind_eq_ok.mp outcome
  constructor
  · have chosen : u.isNull = false := by
      by_contra null
      rw [castToCommonType, if_pos (Bool.not_eq_false _ ▸ null)] at cast
      cases cast
      exact null notNull
    -- The value is what the chosen argument was cast to, and so the common type tells whether it is a text.
    rw [castToCommonType_of_notNull chosen, commonType_eq] at cast
    have types := congrArg f.branches (map_type_of_evaluateArguments evaluated)
    rw [branches_map, branches_map] at types
    have candidate : (∃ c ∈ f.branches arguments, c.type = .ok .text) ↔
        .text ∈ f.branches (argumentTypes arguments values) := by
      rw [← List.mem_map, types]
      simp
    rw [candidate]
    split at cast
    · rename_i text
      cases u with
      | null => cases chosen
      | _ =>
          cases cast
          exact ⟨fun _ => text, fun _ => rfl⟩
    · rename_i noText
      refine ⟨fun text => ?_, fun text => absurd text noText⟩
      split at cast
      · have notText := u.castSigned_yields_integer.of_eq_ok cast
        rw [Scalar.datatype_eq_integer notNull notText] at text
        cases text
      · cases cast
  · intro c mem
    exact evaluate_of_evaluateArguments evaluated c (FunctionName.mem_of_mem_branches mem)

end Source

/-! ### Two versions of a tree -/

/-- A column without the value that the row has there. -/
def forgetValue : Expr → Expr
  | .column c _ => .column c .null
  | e => e

/-- A tree without the values of its columns. -/
def withoutValues (e : Expr) : Expr := e.rebuild forgetValue

/-- Two trees differ in the values of columns alone. -/
def SameColumns (e e' : Expr) : Prop := e.withoutValues = e'.withoutValues

/-- A source of types without the values of columns. -/
def TypeSource.withoutValues : TypeSource → TypeSource
  | .fixed t => .fixed t
  | .column t => .column t
  | .operand e => .operand e.withoutValues
  | .common candidates => .common (candidates.map Expr.withoutValues)

theorem typeSource_withoutValues (e : Expr) :
    e.withoutValues.typeSource = e.typeSource.withoutValues := by
  rw [withoutValues]
  cases e with
  | unary op e => cases op <;> rfl
  | isIn negated e candidates =>
      rw [rebuild_isIn]
      rfl
  | cast e target => cases target <;> rfl
  | sortTerm term =>
      cases term
      rfl
  | join clause =>
      cases clause
      rfl
  | existsRow negated query =>
      rw [rebuild_existsRow]
      rfl
  | subquery query expected =>
      rw [rebuild_subquery]
      rfl
  | call f arguments =>
      rw [rebuild_call]
      simp only [forgetValue, typeSource, branches_map]
      split <;> rfl
  | _ => rfl

/-- Two versions of an expression have types from like sources. -/
theorem SameColumns.typeSource {e e' : Expr} (same : SameColumns e e') :
    e.typeSource.withoutValues = e'.typeSource.withoutValues := by
  rw [← typeSource_withoutValues, ← typeSource_withoutValues, same]

theorem SameColumns.typeSource_eq_fixed {e e' : Expr} (same : SameColumns e e') {t : ValueType}
    (source : e.typeSource = .fixed t) : e'.typeSource = .fixed t := by
  have sources := same.typeSource
  rw [source] at sources
  cases source' : e'.typeSource <;> rw [source'] at sources <;> cases sources
  rfl

theorem SameColumns.declared {e e' : Expr} (same : SameColumns e e') : e.declared? = e'.declared? := by
  have sources := same.typeSource
  simp only [declared?]
  cases source : e.typeSource <;> cases source' : e'.typeSource <;>
    simp_all [TypeSource.withoutValues]

/-- Two versions of a candidate are of one type if it is a column, or if their values are. -/
theorem SameColumns.type_eq {e e' : Expr} (same : SameColumns e e') {v v' : Scalar}
    (value : e.evaluate .mysql = .ok v) (value' : e'.evaluate .mysql = .ok v')
    (undeclared : e.declared? = none → v.datatype = v'.datatype) : e.type = e'.type := by
  have declared := same.declared
  cases column : e.declared? with
  | some t => rw [type_of_declared column, type_of_declared (declared ▸ column)]
  | none =>
      rw [type_of_undeclared column value, type_of_undeclared (declared ▸ column) value',
        undeclared column]

section Candidates

variable {candidates candidates' : List Expr}

/-- Candidates at the same place of two versions are two versions. -/
theorem sameColumns_of_mem_zip (same : candidates.map withoutValues = candidates'.map withoutValues) :
    ∀ p ∈ candidates.zip candidates', SameColumns p.1 p.2 := by
  induction candidates generalizing candidates' with
  | nil => exact nofun
  | cons c candidates ih =>
      cases candidates' with
      | nil => exact nofun
      | cons c' candidates' =>
          obtain ⟨head, tail⟩ := List.cons.inj same
          exact List.forall_mem_cons.mpr ⟨head, ih tail⟩

/-- The candidates of two versions are as many, and two versions at each place. -/
theorem SameColumns.of_common {e e' : Expr} (same : SameColumns e e')
    (source : e.typeSource = .common candidates) (source' : e'.typeSource = .common candidates') :
    candidates.length = candidates'.length ∧ ∀ p ∈ candidates.zip candidates', SameColumns p.1 p.2 := by
  have sources := same.typeSource
  rw [source, source'] at sources
  have sameCandidates := TypeSource.common.inj sources
  exact ⟨by simpa using congrArg List.length sameCandidates, sameColumns_of_mem_zip sameCandidates⟩

/-- What holds of both or of neither at each place holds somewhere in both lists or in neither. -/
theorem exists_mem_iff_of_zip {P : Expr → Prop} (lengths : candidates.length = candidates'.length)
    (each : ∀ p ∈ candidates.zip candidates', (P p.1 ↔ P p.2)) :
    (∃ c ∈ candidates, P c) ↔ ∃ c ∈ candidates', P c := by
  induction candidates generalizing candidates' with
  | nil => simp [List.length_eq_zero_iff.mp lengths.symm]
  | cons c candidates ih =>
      cases candidates' with
      | nil => cases lengths
      | cons c' candidates' =>
          obtain ⟨head, tail⟩ := List.forall_mem_cons.mp each
          simp only [List.exists_mem_cons_iff]
          exact or_congr head (ih (by simpa using lengths) tail)

end Candidates

/-- Two versions of an expression are null both or neither, where both have values. -/
def NullAlike (e e' : Expr) : Prop :=
  ∀ v v', e.evaluate .mysql = .ok v → e'.evaluate .mysql = .ok v' → v.isNull = v'.isNull

theorem nullAlike_of_eq_ok {e e' : Expr} {v v' : Scalar} (value : e.evaluate .mysql = .ok v)
    (value' : e'.evaluate .mysql = .ok v') (null : v.isNull = v'.isNull) : NullAlike e e' := by
  intro w w' other other'
  cases value.symm.trans other
  cases value'.symm.trans other'
  exact null

/-- Two versions of an expression over rows in which, wherever its type comes from, the candidates other than
columns are null in both or in neither, and a column that gives its value has it of one type. -/
inductive Steady : Expr → Expr → Prop where
  | fixed {e e' : Expr} {t : ValueType} (source : e.typeSource = .fixed t) : Steady e e'
  | column {c : Column} {v v' : Scalar} (typed : v.datatype = v'.datatype) :
      Steady (.column c v) (.column c v')
  | operand {e e' o o' : Expr} (source : e.typeSource = .operand o) (source' : e'.typeSource = .operand o')
      (inner : Steady o o') : Steady e e'
  | common {e e' : Expr} {candidates candidates' : List Expr} (source : e.typeSource = .common candidates)
      (source' : e'.typeSource = .common candidates')
      (null : ∀ p ∈ candidates.zip candidates', p.1.declared? = none → NullAlike p.1 p.2)
      (inner : ∀ p ∈ candidates.zip candidates', p.1.declared? = none → Steady p.1 p.2) : Steady e e'

/-- Steady versions of an expression have values of one type, unless one of these is null. -/
theorem Steady.datatype_eq {e e' : Expr} (steady : Steady e e') (same : SameColumns e e') {v v' : Scalar}
    (value : e.evaluate .mysql = .ok v) (value' : e'.evaluate .mysql = .ok v')
    (notNull : v.isNull = false) (notNull' : v'.isNull = false) : v.datatype = v'.datatype := by
  -- By where the type comes from. For candidates, each pair is of one type where neither is null, by induction, and
  -- where one is null both are.
  induction steady generalizing v v' with
  | fixed source =>
      have source' := same.typeSource_eq_fixed source
      rw [Yields.of_eq_ok (isOf_of_typeSource_eq source) value notNull,
        Yields.of_eq_ok (isOf_of_typeSource_eq source') value' notNull']
  | column typed =>
      obtain ⟨_, _, row⟩ := bind_eq_ok.mp value
      obtain ⟨_, _, row'⟩ := bind_eq_ok.mp value'
      cases row
      cases row'
      exact typed
  | operand source source' inner ih =>
      have sources := same.typeSource
      rw [source, source'] at sources
      rw [evaluate_of_operand source] at value
      rw [evaluate_of_operand source'] at value'
      exact ih (TypeSource.operand.inj sources) value value' notNull notNull'
  | common source source' null inner ih =>
      obtain ⟨lengths, pairs⟩ := same.of_common source source'
      obtain ⟨text, evaluated⟩ := datatype_eq_text_iff source value notNull
      obtain ⟨text', evaluated'⟩ := datatype_eq_text_iff source' value' notNull'
      rw [Scalar.datatype_eq_iff notNull notNull', text, text']
      refine exists_mem_iff_of_zip lengths fun p mem => ?_
      have samePair := pairs p mem
      obtain ⟨w, candidate⟩ := evaluated p.1 (List.of_mem_zip mem).1
      obtain ⟨w', candidate'⟩ := evaluated' p.2 (List.of_mem_zip mem).2
      rw [samePair.type_eq candidate candidate' fun undeclared => ?_]
      have alike := null p mem undeclared w w' candidate candidate'
      cases nullity : w.isNull with
      | true => rw [Scalar.datatype_eq_null nullity, Scalar.datatype_eq_null (alike ▸ nullity)]
      | false => exact ih p mem undeclared samePair candidate candidate' nullity (alike ▸ nullity)

/-! ### The type of a result -/

/-- The results of two versions of a call that chooses among its arguments, neither of them null, are of one
type where both versions have a candidate that is a text or neither has. If they are not, then some candidate
other than a column is a text in one version alone. And they are of one type where what is null is the same in
both versions. -/
theorem datatype_call_eq_iff {f : FunctionName} (choosing : f ∈ [.coalesce, .ifNull, .ifElse])
    {arguments arguments' : List Expr} (same : SameColumns (call f arguments) (call f arguments'))
    {v v' : Scalar} (value : (call f arguments).predict .mysql = .ok (.value v))
    (value' : (call f arguments').predict .mysql = .ok (.value v'))
    (notNull : v.isNull = false) (notNull' : v'.isNull = false) :
    (v.datatype = v'.datatype ↔
      ((∃ e ∈ f.branches arguments, e.type = .ok .text) ↔
        ∃ e ∈ f.branches arguments', e.type = .ok .text)) ∧
    (v.datatype ≠ v'.datatype → ∃ p ∈ (f.branches arguments).zip (f.branches arguments'),
      p.1.declared? = none ∧ ¬ (p.1.type = .ok .text ↔ p.2.type = .ok .text)) ∧
    (Steady (call f arguments) (call f arguments') → v.datatype = v'.datatype) := by
  rw [predict_eq_value_iff] at value value'
  obtain ⟨choose, choice⟩ : ∃ choose, f.chosen? = some choose := by
    simp only [List.mem_cons, List.not_mem_nil, or_false] at choosing
    rcases choosing with rfl | rfl | rfl <;> exact ⟨_, rfl⟩
  have source := typeSource_call choice arguments
  have source' := typeSource_call choice arguments'
  obtain ⟨lengths, pairs⟩ := same.of_common source source'
  obtain ⟨text, _⟩ := datatype_eq_text_iff source value notNull
  obtain ⟨text', _⟩ := datatype_eq_text_iff source' value' notNull'
  have sameType := Scalar.datatype_eq_iff notNull notNull'
  rw [text, text'] at sameType
  refine ⟨sameType, fun differ => ?_, fun steady => steady.datatype_eq same value value' notNull notNull'⟩
  -- If each candidate is a text in both versions or in neither, so is one of them, and the types are the same.
  by_contra! alike
  refine differ (sameType.mpr (exists_mem_iff_of_zip lengths fun p mem => ?_))
  cases declared : p.1.declared? with
  | none => exact alike p mem declared
  | some t =>
      have declared' := (pairs p mem).declared ▸ declared
      rw [type_of_declared declared, type_of_declared declared']

/-- IFNULL of what COALESCE chooses between a column as a text and a number, over two rows that have a text
in the column. -/
theorem datatype_call_eq_iff_nested :
    let five := Expr.constant (.int ⟨5, by decide⟩)
    let choice (t : Text) := call .coalesce [.cast (.column ⟨"c", "t", .text⟩ (.text t)) .text, five]
    SameColumns (call .ifNull [choice "a", five]) (call .ifNull [choice "7", five]) ∧
      (call .ifNull [choice "a", five]).predict .mysql = .ok (.value (.text "a")) ∧
      (call .ifNull [choice "7", five]).predict .mysql = .ok (.value (.text "7")) ∧
      Scalar.datatype (.text "a") = Scalar.datatype (.text "7") := by
  intro five choice
  have value : (call .ifNull [choice "a", five]).predict .mysql = .ok (.value (.text "a")) := by decide
  have value' : (call .ifNull [choice "7", five]).predict .mysql = .ok (.value (.text "7")) := by decide
  have constant : NullAlike five five ∧ Steady five five :=
    ⟨nullAlike_of_eq_ok rfl rfl rfl, .fixed rfl⟩
  have candidates : Steady (choice "a") (choice "7") := by
    refine .common rfl rfl ?_ ?_
    · refine List.forall_mem_cons.mpr ⟨fun _ => nullAlike_of_eq_ok rfl rfl rfl, ?_⟩
      exact List.forall_mem_singleton.mpr fun _ => constant.1
    · refine List.forall_mem_cons.mpr ⟨fun _ => .fixed rfl, ?_⟩
      exact List.forall_mem_singleton.mpr fun _ => constant.2
  have steady : Steady (call .ifNull [choice "a", five]) (call .ifNull [choice "7", five]) := by
    refine .common rfl rfl ?_ ?_
    · refine List.forall_mem_cons.mpr ⟨fun _ => nullAlike_of_eq_ok rfl rfl rfl, ?_⟩
      exact List.forall_mem_singleton.mpr fun _ => constant.1
    · refine List.forall_mem_cons.mpr ⟨fun _ => candidates, ?_⟩
      exact List.forall_mem_singleton.mpr fun _ => constant.2
  have same : SameColumns (call .ifNull [choice "a", five]) (call .ifNull [choice "7", five]) := rfl
  exact ⟨same, value, value', (datatype_call_eq_iff (by decide) same value value' rfl rfl).2.2 steady⟩

/-- COALESCE of a column as a text and a number is a text over a row that has a text in the column, and a
number over a row that has null there. -/
theorem datatype_call_of_row :
    let five := Scalar.int ⟨5, by decide⟩
    let arguments (v : Scalar) : List Expr :=
      [.cast (.column ⟨"c", "t", .text⟩ v) .text, .constant five]
    SameColumns (call .coalesce (arguments (.text "a"))) (call .coalesce (arguments .null)) ∧
      (call .coalesce (arguments (.text "a"))).predict .mysql = .ok (.value (.text "a")) ∧
      (call .coalesce (arguments .null)).predict .mysql = .ok (.value five) ∧
      Scalar.datatype (.text "a") ≠ five.datatype :=
  ⟨rfl, by decide, by decide, by decide⟩

end Expr

end PivotOracle
