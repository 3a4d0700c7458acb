import PivotOracle.Proofs.Validation
import PivotOracle.Stored.Load

/-!
# Obstacles to writing

Validation writes an expression and refuses it where it comes upon a construct that the dialect lacks. It comes upon
one more obstacle, which it does not refuse but breaks off at: a call with fewer arguments than its function takes.
The order in which an expression is written decides which obstacle is met first, and with it how the validation ends.

* `Expr.writingOrder`, `Expr.WrittenIn` — what the text of an expression shows, and in which order.
* `Expr.Lacking`, `Expr.FallsShort` — the two obstacles, by the functions that the dialect has and by what they take.
* `Expr.MeetsFirst` — the obstacle that is met first.
* `Expr.failure?_render` — one step of writing; `Expr.render_eq_error_iff` — the whole.
* `Expr.validate_clean_iff` — a validation ends in a text or a refusal, unless a call that falls short is met first.
-/

namespace PivotOracle

/-- The failure of a computation, if it fails. -/
def failure? {α : Type} : Except Failure α → Option Failure
  | .ok _ => none
  | .error f => some f

section Failures

variable {α β : Type} {x : Except Failure α} {f : Failure}

@[simp] theorem failure?_ok (a : α) : failure? (.ok a) = none := rfl

@[simp] theorem failure?_error : failure? (.error f : Except Failure α) = some f := rfl

theorem failure?_eq_some_iff : failure? x = some f ↔ x = .error f := by
  cases x <;> simp

theorem failure?_eq_none_iff : failure? x = none ↔ ∃ a, x = .ok a := by
  cases x <;> simp

/-- A computation of two steps fails with its first step, or else with its second one. -/
theorem failure?_bind {step : α → Except Failure β} {o : Option Failure}
    (after : ∀ a, x = .ok a → failure? (step a) = o) : failure? (x >>= step) = (failure? x).or o := by
  cases x with
  | ok a => exact after a rfl
  | error f => rfl

/-- What is made of a value without fail brings no failure of its own. -/
@[simp] theorem failure?_bind_pure (g : α → β) : failure? (x >>= fun a => pure (g a)) = failure? x := by
  cases x <;> rfl

end Failures

/-- A construct that a dialect does not have: a connective, or a function that is not among those of the dialect. -/
inductive Dialect.Lacks : Dialect → Construct → Prop where
  | exclusiveOr : Lacks .sqlite (.connective .xor)
  | function {d : Dialect} {f : FunctionName} (unregistered : (registry d).lookup f = none) : Lacks d (.function f)

namespace Expr

variable {d : Dialect}

/-! ### What is written -/

/-- The parts of an expression that its text shows, in the order in which they are written: candidates come before
what is looked for among them. -/
def writingOrder : Expr → List Expr
  | .isIn _ e candidates => candidates ++ [e]
  | e => e.writtenParts

/-- An expression stands in another one where the text of that one shows it. -/
inductive WrittenIn : Expr → Expr → Prop where
  | self (e : Expr) : WrittenIn e e
  | part {n p e : Expr} : p ∈ e.writingOrder → WrittenIn n p → WrittenIn n e

theorem mem_parts_of_mem_writingOrder {p e : Expr} (mem : p ∈ e.writingOrder) : p ∈ e.parts := by
  cases e with
  | isIn negated e candidates =>
      rcases List.mem_append.mp mem with candidate | subject
      · exact List.mem_cons_of_mem _ candidate
      · exact List.mem_cons.mpr (.inl (List.mem_singleton.mp subject))
  | subquery query expected => exact List.mem_cons_of_mem _ mem
  | _ => exact mem

/-! ### Obstacles -/

/-- An expression is of a construct that the dialect lacks. -/
inductive Lacking (d : Dialect) : Expr → Construct → Prop where
  | connective {op : Connective} (lacks : d.Lacks (.connective op)) (l r : Expr) :
    Lacking d (.connective op l r) (.connective op)
  | function {f : FunctionName} (lacks : d.Lacks (.function f)) (arguments : List Expr) :
    Lacking d (.call f arguments) (.function f)

/-- A call of a function that the dialect has, with fewer arguments than the function takes. A function that takes any
number of them is content with none. -/
inductive FallsShort (d : Dialect) : Expr → Prop where
  | call {f : FunctionName} {arguments : List Expr} {definition : FunctionDefinition}
    (found : definitionOf d f = .ok definition) (fixed : definition.variadic = false)
    (short : arguments.length < definition.arity) : FallsShort d (.call f arguments)

/-- Nothing that the text of an expression would show is an obstacle to writing it. -/
def Writable (d : Dialect) (e : Expr) : Prop :=
  ∀ n : Expr, n.WrittenIn e → (∀ c, ¬ n.Lacking d c) ∧ ¬ n.FallsShort d

/-- The obstacle that is met first when an expression is written. Its own construct is looked up before its parts are
written, and its arguments are counted after them. -/
inductive MeetsFirst (d : Dialect) : Expr → Failure → Prop where
  | lacking {e : Expr} {c : Construct} (lacks : e.Lacking d c) : MeetsFirst d e (.unsupported c d)
  | part {e p : Expr} {before after : List Expr} {f : Failure} (has : ∀ c, ¬ e.Lacking d c)
    (order : e.writingOrder = before ++ p :: after) (clear : ∀ q ∈ before, q.Writable d)
    (met : MeetsFirst d p f) : MeetsFirst d e f
  | short {e : Expr} (has : ∀ c, ¬ e.Lacking d c) (clear : ∀ p ∈ e.writingOrder, p.Writable d)
    (short : e.FallsShort d) : MeetsFirst d e .missingArgument

theorem writable_iff {e : Expr} :
    e.Writable d ↔ ((∀ c, ¬ e.Lacking d c) ∧ ¬ e.FallsShort d) ∧ ∀ p ∈ e.writingOrder, p.Writable d := by
  constructor
  · intro writable
    exact ⟨writable e (.self e), fun p mem n inner => writable n (.part mem inner)⟩
  · rintro ⟨own, below⟩ n written
    cases written with
    | self => exact own
    | part mem inner => exact below _ mem n inner

/-- Where a call that falls short is met, there is one. -/
theorem MeetsFirst.exists_fallsShort {e : Expr} (met : e.MeetsFirst d .missingArgument) :
    ∃ n : Expr, n.WrittenIn e ∧ n.FallsShort d := by
  generalize same : Failure.missingArgument = f at met
  induction met with
  | lacking => cases same
  | part has order clear met ih =>
      obtain ⟨n, written, short⟩ := ih same
      exact ⟨n, .part (order ▸ List.mem_append_right _ List.mem_cons_self) written, short⟩
  | short has clear short => exact ⟨_, .self _, short⟩

/-! ### One step of writing -/

/-- The failure that an expression brings about before its parts are written. -/
def lackingFailure? (d : Dialect) : Expr → Option Failure
  | .connective op _ _ => failure? (d.connectiveKeyword op)
  | .call f _ => failure? (d.callForm f)
  | _ => none

/-- The failure that an expression brings about after its parts are written. -/
def shortFailure? (d : Dialect) : Expr → Option Failure
  | .call f arguments =>
    match d.callForm f with
    | .ok (_, some count) => if arguments.length < count then some .missingArgument else none
    | _ => none
  | _ => none

/-- The failure of the first of several expressions that cannot be written. -/
def firstFailure? (d : Dialect) (es : List Expr) : Option Failure :=
  es.findSome? fun e => failure? (e.render d)

@[simp] theorem firstFailure?_nil : firstFailure? d [] = none := rfl

@[simp] theorem firstFailure?_cons (e : Expr) (es : List Expr) :
    firstFailure? d (e :: es) = (failure? (e.render d)).or (firstFailure? d es) := by
  rw [firstFailure?, List.findSome?_cons]
  cases failure? (e.render d) <;> rfl

@[simp] theorem firstFailure?_append (es es' : List Expr) :
    firstFailure? d (es ++ es') = (firstFailure? d es).or (firstFailure? d es') :=
  List.findSome?_append

theorem failure?_renderAll (es : List Expr) : failure? (renderAll d es) = firstFailure? d es := by
  induction es with
  | nil => rfl
  | cons e es ih =>
      rw [renderAll, firstFailure?_cons, ← ih]
      exact failure?_bind fun _ _ => failure?_bind_pure _

theorem failure?_renderJoins (joins : List (JoinClause Expr)) :
    failure? (renderJoins d joins) = firstFailure? d (joins.map (·.condition)) := by
  induction joins with
  | nil => rfl
  | cons clause joins ih =>
      rw [renderJoins, List.map_cons, firstFailure?_cons, ← ih]
      exact failure?_bind fun _ _ => failure?_bind_pure _

theorem failure?_renderFilter (filter : Option Expr) :
    failure? (renderFilter d filter) = firstFailure? d filter.toList := by
  cases filter with
  | none => rfl
  | some condition =>
      rw [renderFilter, Option.toList_some, firstFailure?_cons]
      exact (failure?_bind_pure _).trans Option.or_none.symm

theorem failure?_renderSort (terms : List (SortTerm Expr)) :
    failure? (renderSort d terms) = firstFailure? d (terms.map (·.expression)) := by
  induction terms with
  | nil => rfl
  | cons term terms ih =>
      rw [renderSort, List.map_cons, firstFailure?_cons, ← ih]
      exact failure?_bind fun _ _ => failure?_bind_pure _

theorem failure?_renderSelect (query : Select Expr) : failure? (query.render d) = firstFailure? d query.parts := by
  simp only [Select.parts, firstFailure?_append, Option.or_assoc]
  rw [← failure?_renderAll, ← failure?_renderJoins, ← failure?_renderFilter, ← failure?_renderSort]
  exact failure?_bind fun _ _ => failure?_bind fun _ _ => failure?_bind fun _ _ => failure?_bind_pure _

theorem failure?_callText {f : FunctionName} {arguments : List Expr} {form : Text × Option Nat}
    (called : d.callForm f = .ok form) {texts : List Text} (lengths : arguments.length = texts.length) :
    failure? (callText form texts) = shortFailure? d (.call f arguments) := by
  obtain ⟨name, count⟩ := form
  rw [shortFailure?, called]
  cases count with
  | none => simp [callText]
  | some count =>
      have written : (texts.take count).length < count ↔ arguments.length < count := by
        rw [List.length_take, lengths]
        omega
      by_cases short : arguments.length < count
      · simp only [callText, Option.getD_some, if_pos (written.mpr short), if_pos short, failure?_error]
      · simp only [callText, Option.getD_some, if_neg (mt written.mp short), if_neg short, failure?_ok]

/-- An operator of one operand fails to be written with the operand. -/
theorem failure?_operand (e : Expr) (write : Text → Text) :
    failure? (do return write (← e.render d)) = (firstFailure? d [e]).or none := by
  rw [failure?_bind_pure, Option.or_none, firstFailure?_cons, firstFailure?_nil, Option.or_none]

/-- An operator of two operands fails to be written with the first of them, or else with the second one. -/
theorem failure?_operands (l r : Expr) (write : Text → Text → Text) :
    failure? (do return write (← l.render d) (← r.render d)) = (firstFailure? d [l, r]).or none := by
  rw [Option.or_none, firstFailure?_cons]
  exact failure?_bind fun _ _ => (failure?_operand r _).trans Option.or_none

/-- An expression fails to be written by its own construct, or else by the first of its parts that fails, or else by
the number of its arguments. -/
theorem failure?_render (e : Expr) :
    failure? (e.render d) =
      (lackingFailure? d e).or ((firstFailure? d e.writingOrder).or (shortFailure? d e)) := by
  cases e with
  | constant v => rfl
  | column c v => rfl
  | typeName t => rfl
  | unary op e => exact failure?_operand e _
  | postfixTest op e => exact failure?_operand e _
  | collate e collation => exact failure?_operand e _
  | cast e target => exact failure?_operand e _
  | sortTerm term => exact failure?_operand term.expression _
  | join clause => exact failure?_operand clause.condition _
  | arithmetic op l r => exact failure?_operands l r _
  | comparison op l r => exact failure?_operands l r _
  | connective op l r => exact failure?_bind fun keyword _ => failure?_operands l r _
  | between negated e low high =>
      refine (failure?_bind fun v _ => failure?_operands low high _).trans ?_
      rw [← Option.or_assoc, ← firstFailure?_cons]
      rfl
  | isIn negated e candidates =>
      refine (failure?_bind fun texts _ => failure?_operand e _).trans ?_
      rw [failure?_renderAll, ← Option.or_assoc, ← firstFailure?_append]
      rfl
  | existsRow negated query =>
      rw [render_existsRow, failure?_bind_pure, failure?_renderSelect]
      exact Option.or_none.symm
  | subquery query expected =>
      rw [render_subquery, failure?_bind_pure, failure?_renderSelect]
      exact Option.or_none.symm
  | call f arguments =>
      refine failure?_bind fun form called => ?_
      rw [← failure?_renderAll]
      exact failure?_bind fun texts written => failure?_callText called (length_of_renderAll written)

/-! ### The obstacle that is met first -/

/-- A dialect fails to name the constructs that it lacks. -/
theorem lackingFailure?_eq_some_iff {e : Expr} {f : Failure} :
    lackingFailure? d e = some f ↔ ∃ c, e.Lacking d c ∧ f = .unsupported c d := by
  constructor
  · intro failed
    cases e with
    | connective op l r =>
        cases d <;> cases op <;> cases failed
        exact ⟨_, .connective .exclusiveOr l r, rfl⟩
    | call g arguments =>
        cases d <;> cases g <;> cases failed <;> exact ⟨_, .function (.function rfl) arguments, rfl⟩
    | _ => cases failed
  · rintro ⟨c, lacking, rfl⟩
    cases lacking with
    | connective lacks l r =>
        cases lacks
        rfl
    | @function g lacks arguments =>
        cases lacks with
        | function unregistered => cases d <;> cases g <;> first | rfl | cases unregistered

theorem lackingFailure?_eq_none_iff {e : Expr} : lackingFailure? d e = none ↔ ∀ c, ¬ e.Lacking d c := by
  constructor
  · intro has c lacking
    have failed := lackingFailure?_eq_some_iff.mpr ⟨c, lacking, rfl⟩
    rw [has] at failed
    cases failed
  · intro has
    cases failed : lackingFailure? d e with
    | none => rfl
    | some f =>
        obtain ⟨c, lacking, _⟩ := lackingFailure?_eq_some_iff.mp failed
        exact absurd lacking (has c)

/-- Of the arguments of a call as many are written as the function takes, or all of them where it takes any number. -/
theorem callForm_of_definitionOf {f : FunctionName} {definition : FunctionDefinition}
    (found : definitionOf d f = .ok definition) :
    ∃ name, d.callForm f = .ok (name, if definition.variadic then none else some definition.arity) := by
  cases d <;> cases f <;> cases found <;> exact ⟨_, rfl⟩

/-- A call of a function that the dialect has is written with too few arguments where it falls short. -/
theorem shortFailure?_eq_some_iff {e : Expr} {f : Failure} :
    shortFailure? d e = some f ↔ e.FallsShort d ∧ f = .missingArgument := by
  constructor
  · intro failed
    cases e with
    | call g arguments =>
        cases called : d.callForm g with
        | error g' => simp [shortFailure?, called] at failed
        | ok form =>
            -- The dialect writes the functions that it evaluates, and with the same number of arguments.
            obtain ⟨definition, found⟩ := (definitionOf_iff_callForm g).mpr ⟨form, called⟩
            obtain ⟨name, calledSo⟩ := callForm_of_definitionOf found
            cases fixed : definition.variadic with
            | true => simp [shortFailure?, calledSo, fixed] at failed
            | false =>
                simp only [shortFailure?, calledSo, fixed, Bool.false_eq_true, if_false] at failed
                split at failed
                · rename_i short
                  cases failed
                  exact ⟨.call found fixed short, rfl⟩
                · cases failed
    | _ => cases failed
  · rintro ⟨fallsShort, rfl⟩
    cases fallsShort with
    | call found fixed short =>
        obtain ⟨name, called⟩ := callForm_of_definitionOf found
        simp [shortFailure?, called, fixed, short]

theorem shortFailure?_eq_none_iff {e : Expr} : shortFailure? d e = none ↔ ¬ e.FallsShort d := by
  constructor
  · intro enough short
    have failed := shortFailure?_eq_some_iff.mpr ⟨short, rfl⟩
    rw [enough] at failed
    cases failed
  · intro enough
    cases failed : shortFailure? d e with
    | none => rfl
    | some f => exact absurd (shortFailure?_eq_some_iff.mp failed).1 enough

/-- Expressions of which some cannot be written start with such that can, up to the first one that cannot. -/
theorem firstFailure?_eq_some_iff {es : List Expr} {f : Failure} :
    firstFailure? d es = some f ↔
      ∃ before p after, es = before ++ p :: after ∧ firstFailure? d before = none ∧ p.render d = .error f := by
  constructor
  · intro failed
    obtain ⟨before, p, after, split, first, none⟩ := List.findSome?_eq_some_iff.mp failed
    exact ⟨before, p, after, split, List.findSome?_eq_none_iff.mpr none, failure?_eq_some_iff.mp first⟩
  · rintro ⟨before, p, after, rfl, clear, failed⟩
    rw [firstFailure?_append, firstFailure?_cons, clear, failed]
    rfl

theorem firstFailure?_eq_none_iff {es : List Expr} :
    firstFailure? d es = none ↔ ∀ e ∈ es, ∃ t, e.render d = .ok t := by
  simp only [firstFailure?, List.findSome?_eq_none_iff, failure?_eq_none_iff]

/-- An expression can be written where nothing that its text shows is an obstacle. -/
theorem render_eq_ok_iff {e : Expr} : (∃ t, e.render d = .ok t) ↔ e.Writable d := by
  induction e using induction_parts with
  | step e ih =>
      have parts : firstFailure? d e.writingOrder = none ↔ ∀ p ∈ e.writingOrder, p.Writable d :=
        firstFailure?_eq_none_iff.trans (forall₂_congr fun p mem => ih p (mem_parts_of_mem_writingOrder mem))
      rw [← failure?_eq_none_iff, failure?_render, Option.or_eq_none_iff, Option.or_eq_none_iff, parts,
        lackingFailure?_eq_none_iff, shortFailure?_eq_none_iff, writable_iff]
      tauto

theorem firstFailure?_eq_none_iff_writable {es : List Expr} :
    firstFailure? d es = none ↔ ∀ e ∈ es, e.Writable d := by
  simp only [firstFailure?_eq_none_iff, render_eq_ok_iff]

/-- The writing of an expression fails at the obstacle that is met first. -/
theorem render_eq_error_iff {e : Expr} {f : Failure} : e.render d = .error f ↔ e.MeetsFirst d f := by
  induction e using induction_parts with
  | step e ih =>
      -- the three alternatives of one step are the three ways in which an obstacle is met
      rw [← failure?_eq_some_iff, failure?_render, Option.or_eq_some_iff, Option.or_eq_some_iff,
        lackingFailure?_eq_some_iff, lackingFailure?_eq_none_iff, firstFailure?_eq_some_iff,
        firstFailure?_eq_none_iff_writable, shortFailure?_eq_some_iff]
      constructor
      · rintro (⟨c, lacking, rfl⟩ | ⟨has, ⟨before, p, after, order, clear, failed⟩ | ⟨clear, short, rfl⟩⟩)
        · exact .lacking lacking
        · have mem : p ∈ e.writingOrder := order ▸ List.mem_append_right _ List.mem_cons_self
          have met := (ih p (mem_parts_of_mem_writingOrder mem)).mp failed
          exact .part has order (firstFailure?_eq_none_iff_writable.mp clear) met
        · exact .short has clear short
      · intro met
        cases met with
        | lacking lacking => exact .inl ⟨_, lacking, rfl⟩
        | @part _ p before after _ has order clear met =>
            have mem : p ∈ e.writingOrder := order ▸ List.mem_append_right _ List.mem_cons_self
            have failed := (ih p (mem_parts_of_mem_writingOrder mem)).mpr met
            exact .inr ⟨has, .inl ⟨before, p, after, order, firstFailure?_eq_none_iff_writable.mpr clear, failed⟩⟩
        | short has clear short => exact .inr ⟨has, .inr ⟨clear, short, rfl⟩⟩

/-- What is met first is a construct that the dialect lacks, or a call that falls short. -/
theorem MeetsFirst.kind {e : Expr} {f : Failure} (met : e.MeetsFirst d f) :
    (∃ c, d.Lacks c ∧ f = .unsupported c d) ∨ f = .missingArgument := by
  induction met with
  | @lacking e c lacking =>
      refine .inl ⟨c, ?_, rfl⟩
      cases lacking with
      | connective lacks => exact lacks
      | function lacks => exact lacks
  | part has order clear met ih => exact ih
  | short => exact .inr rfl

/-! ### Validation -/

/-- Validation ends as the writing does, and refuses where the writing fails for want of a construct. -/
theorem validate_eq_error_iff {e : Expr} {g : Failure} :
    e.validate d = .error g ↔
      e.MeetsFirst d g ∧ g = .missingArgument ∨
        ∃ c, d.Lacks c ∧ e.MeetsFirst d (.unsupported c d) ∧ g = .rejected c d := by
  unfold validate validated
  constructor
  · intro failed
    split at failed
    · rename_i c d' unsupported
      have met := render_eq_error_iff.mp unsupported
      obtain ⟨c', lacks, same⟩ | same := met.kind
      · cases same
        cases failed
        exact .inr ⟨c, lacks, met, rfl⟩
      · cases same
    · rename_i other
      have met := render_eq_error_iff.mp failed
      obtain ⟨c, _, rfl⟩ | same := met.kind
      · exact absurd failed (other c d)
      · exact .inl ⟨met, same⟩
  · rintro (⟨met, rfl⟩ | ⟨c, _, met, rfl⟩)
    · rw [render_eq_error_iff.mpr met]
    · rw [render_eq_error_iff.mpr met]

/-- A validation breaks off at a call that falls short, where that is the obstacle that is met first. -/
theorem validate_eq_missingArgument_iff {e : Expr} :
    e.validate d = .error .missingArgument ↔ e.MeetsFirst d .missingArgument := by
  rw [validate_eq_error_iff]
  constructor
  · rintro (⟨met, _⟩ | ⟨c, _, _, same⟩)
    · exact met
    · cases same
  · exact fun met => .inl ⟨met, rfl⟩

/-- A validation ends in the text of the expression, or in the refusal of a construct that the dialect lacks, unless a
call that falls short is the obstacle that is met first; then, and only then, it breaks off. -/
theorem validate_clean_iff (d : Dialect) (e : Expr) :
    ((∃ t, e.validate d = .ok t) ∨ (∃ c, d.Lacks c ∧ e.validate d = .error (.rejected c d)) ↔
      ¬ e.MeetsFirst d .missingArgument) ∧
    (e.validate d = .error .missingArgument ↔ e.MeetsFirst d .missingArgument) ∧
    (e.MeetsFirst d .missingArgument → ∃ n : Expr, n.WrittenIn e ∧ n.FallsShort d) := by
  refine ⟨?_, validate_eq_missingArgument_iff, MeetsFirst.exists_fallsShort⟩
  rw [← validate_eq_missingArgument_iff]
  cases ended : e.validate d with
  | ok t => exact ⟨fun _ => nofun, fun _ => .inl ⟨t, rfl⟩⟩
  | error g =>
      obtain ⟨_, rfl⟩ | ⟨c, lacks, _, rfl⟩ := validate_eq_error_iff.mp ended
      · constructor
        · rintro (⟨t, same⟩ | ⟨c, _, same⟩) <;> cases same
        · exact fun clean => absurd rfl clean
      · exact ⟨fun _ => nofun, fun _ => .inr ⟨c, lacks, rfl⟩⟩

/-- SQLite refuses a connective before it comes to the call under it, and breaks off at the call where that is on the
left of the connective. -/
theorem validate_in_writing_order :
    let short := call .abs []
    let refused := connective .xor short short
    let broken := arithmetic .add short refused
    refused.validate .sqlite = .error (.rejected (.connective .xor) .sqlite) ∧
      ¬ refused.MeetsFirst .sqlite .missingArgument ∧
      broken.MeetsFirst .sqlite .missingArgument ∧ ∃ n : Expr, n.WrittenIn broken ∧ n.FallsShort .sqlite := by
  intro short refused broken
  have met : broken.MeetsFirst .sqlite .missingArgument := (validate_clean_iff .sqlite broken).2.1.mp rfl
  refine ⟨rfl, ?_, met, (validate_clean_iff .sqlite broken).2.2 met⟩
  exact (validate_clean_iff .sqlite refused).1.mp (.inr ⟨_, .exclusiveOr, rfl⟩)

/-- The call of `ABS` without an argument is stored and loaded like any other, and its validation breaks off. -/
theorem validate_breaks_off :
    let stored : Data := .table [("kind", .text "function"), ("function", .text "abs"), ("arguments", .list [])]
    loadExpr stored = .value (Expr.call .abs []) ∧ (Expr.call .abs []).validate .mysql = .error .missingArgument :=
  ⟨rfl, rfl⟩

end Expr

end PivotOracle
