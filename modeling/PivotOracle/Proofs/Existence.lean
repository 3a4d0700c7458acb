import PivotOracle.Proofs.Formulas
import PivotOracle.Proofs.TraceAgreement

/-!
# Tests for rows

EXISTS is predicted to hold where the conditions of the statement are true of the pivot row, and nothing is
predicted where one of them is not, since other rows may be left. The rest of the statement has no say. For
its limit that is a defect, because a statement that is limited to no rows has none, whatever its conditions
are.

* `Select.conditions` — the conditions of a statement, in the order in which they are looked at.
* `Expr.allSurelyTrue`, `Expr.evaluate_existsRow_eq` — the test, as a loop over the conditions.
* `Select.AdmitsRow` — the limit of a statement, if there is one, lets a row through.
* `Expr.predict_existsRow_iff` — when a test for rows is predicted, and when that is certain.
* `Expr.predict_existsRow_of_no_rows` — a test for rows of a statement that has none is predicted to hold.
-/

namespace PivotOracle

/-- The conditions of a statement on the rows that it selects: those of its joins, then its filter. -/
def Select.conditions (query : Select Expr) : List Expr :=
  query.joins.map (·.condition) ++ query.filter.toList

/-- Whether a limit lets at least one row through. SQLite takes a negative limit for none, and MySQL refuses
it. -/
def Dialect.limitAdmits : Dialect → Int → Prop
  | .mysql, n => 0 < n
  | .sqlite, n => n ≠ 0

/-- The limit of a statement, if there is one, lets at least one row through. -/
def Select.AdmitsRow (d : Dialect) (query : Select Expr) : Prop := ∀ n ∈ query.limit, d.limitAdmits n

namespace Expr

variable {d : Dialect}

/-- Whether conditions are all true of the pivot row. The first that is not ends the question. -/
def allSurelyTrue (d : Dialect) : List Expr → Except Failure Bool
  | [] => .ok true
  | c :: rest => do
    if (← c.truth d) = some true then allSurelyTrue d rest
    else return false

theorem allSurelyTrue_eq_true_iff (conditions : List Expr) :
    allSurelyTrue d conditions = .ok true ↔ ∀ c ∈ conditions, c.truth d = .ok (some true) := by
  induction conditions with
  | nil => simp [allSurelyTrue]
  | cons c conditions ih =>
      rw [allSurelyTrue, List.forall_mem_cons, ← ih]
      cases truth : c.truth d with
      | error f => exact ⟨nofun, nofun⟩
      | ok k => rcases k with _ | _ | _ <;> simp [Bind.bind, Except.bind, pure, Except.pure]

/-- A condition is the first of conditions that is not surely true. -/
inductive FirstNotTrue (d : Dialect) (c : Expr) : List Expr → Prop where
  | here {rest : List Expr} (notTrue : c.truth d ≠ .ok (some true)) : FirstNotTrue d c (c :: rest)
  | later {b : Expr} {rest : List Expr} (surely : b.truth d = .ok (some true))
      (first : FirstNotTrue d c rest) : FirstNotTrue d c (b :: rest)

/-- Where not all conditions are surely true, there is a first one that is not. -/
theorem exists_firstNotTrue {conditions : List Expr}
    (notAll : ∃ c ∈ conditions, c.truth d ≠ .ok (some true)) : ∃ c, FirstNotTrue d c conditions := by
  induction conditions with
  | nil =>
      obtain ⟨c, mem, _⟩ := notAll
      cases mem
  | cons b conditions ih =>
      by_cases surely : b.truth d = .ok (some true)
      · rcases (List.exists_mem_cons_iff ..).mp notAll with notTrue | below
        · exact absurd surely notTrue
        · obtain ⟨c, first⟩ := ih below
          exact ⟨c, .later surely first⟩
      · exact ⟨b, .here surely⟩

/-- The first condition that is not surely true decides the question, unless it has no truth value. -/
theorem FirstNotTrue.allSurelyTrue_eq {c : Expr} {conditions : List Expr}
    (first : FirstNotTrue d c conditions) :
    allSurelyTrue d conditions = (do let _ ← c.truth d; return false) := by
  induction first with
  | here notTrue =>
      rw [allSurelyTrue]
      cases truth : c.truth d with
      | error f => rfl
      | ok k =>
          refine if_neg ?_
          rintro rfl
          exact notTrue truth
  | later surely first ih =>
      rw [allSurelyTrue, surely]
      exact ih

theorem bothHold_assoc (first second third : Except Failure Bool) :
    bothHold (bothHold first second) third = bothHold first (bothHold second third) := by
  rcases first with f | _ | _ <;> rfl

/-- A condition is looked at for its truth value. -/
theorem bothHold_isSurelyTrue (c : Expr) (rest : Except Failure Bool) :
    bothHold (isSurelyTrue d (c.evaluate d)) rest = (do
      if (← c.truth d) = some true then rest else return false) := by
  simp only [bothHold, isSurelyTrue, truth, bind_assoc, pure_bind, decide_eq_true_eq]
  rfl

theorem filterKeepsPivot_eq_allSurelyTrue (filter : Option Expr) :
    filterKeepsPivot d filter = allSurelyTrue d filter.toList := by
  cases filter with
  | none => rfl
  | some condition =>
      rw [Option.toList_some, allSurelyTrue, allSurelyTrue, ← bothHold_isSurelyTrue]
      change isSurelyTrue d _ = bothHold (isSurelyTrue d _) (.ok true)
      rcases isSurelyTrue d (condition.evaluate d) with f | _ | _ <;> rfl

/-- The joins and the filter of a statement are looked at as one list of conditions. -/
theorem keepsPivot_eq_allSurelyTrue (query : Select Expr) :
    query.keepsPivot d = allSurelyTrue d query.conditions := by
  rw [Select.keepsPivot, Select.conditions, filterKeepsPivot_eq_allSurelyTrue]
  induction query.joins with
  | nil => rfl
  | cons clause joins ih =>
      rw [joinsKeepPivot_cons, bothHold_assoc, ih, bothHold_isSurelyTrue]
      rfl

theorem evaluate_existsRow_eq (negated : Bool) (query : Select Expr) :
    (existsRow negated query).evaluate d = (do
      if ← allSurelyTrue d query.conditions then return .ofBool (!negated)
      else throw (.discard .pivotFiltered)) := by
  rw [evaluate_existsRow, keepsPivot_eq_allSurelyTrue]

/-- Nothing is predicted where a condition is not surely true: other rows may be left. -/
theorem FirstNotTrue.evaluate_existsRow {c : Expr} {query : Select Expr}
    (first : FirstNotTrue d c query.conditions) (negated : Bool) :
    (existsRow negated query).evaluate d = (do let _ ← c.truth d; throw (.discard .pivotFiltered)) := by
  rw [evaluate_existsRow_eq, first.allSurelyTrue_eq, bind_assoc]
  rfl

/-- A test for rows is predicted where all conditions of the statement are true, and then to hold; else it is
given up, or fails as the first condition that is not true. Only the conditions have a say: statements with
the same conditions have the same prediction, whatever their limits are. So what is predicted is certain where
the limit lets a row through, and where it does not, only if nothing is predicted. -/
theorem predict_existsRow_iff (d : Dialect) (negated : Bool) (query : Select Expr) :
    (∀ v, (existsRow negated query).predict d = .ok (.value v) ↔
      v = .ofBool (!negated) ∧ ∀ c ∈ query.conditions, c.truth d = .ok (some true)) ∧
    ((∃ c ∈ query.conditions, c.truth d ≠ .ok (some true)) →
      ∃ c, FirstNotTrue d c query.conditions ∧
        (existsRow negated query).evaluate d = (do let _ ← c.truth d; throw (.discard .pivotFiltered))) ∧
    (∀ query' : Select Expr, query'.conditions = query.conditions →
      (existsRow negated query').predict d = (existsRow negated query).predict d) ∧
    (((existsRow negated query).predict d = .ok (.value (.ofBool (!negated))) →
        (∀ c ∈ query.conditions, c.truth d = .ok (some true)) ∧ query.AdmitsRow d) ↔
      query.AdmitsRow d ∨ ∃ c ∈ query.conditions, c.truth d ≠ .ok (some true)) := by
  have value (v : Scalar) : (existsRow negated query).predict d = .ok (.value v) ↔
      v = .ofBool (!negated) ∧ ∀ c ∈ query.conditions, c.truth d = .ok (some true) := by
    rw [predict_eq_value_iff, evaluate_existsRow_eq, bind_eq_ok]
    constructor
    · rintro ⟨kept, keeps, outcome⟩
      cases kept with
      | false => cases outcome
      | true =>
          cases outcome
          exact ⟨rfl, (allSurelyTrue_eq_true_iff _).mp keeps⟩
    · rintro ⟨rfl, surely⟩
      exact ⟨true, (allSurelyTrue_eq_true_iff _).mpr surely, rfl⟩
  refine ⟨value, ?_, ?_, ?_⟩
  · intro notAll
    obtain ⟨c, first⟩ := exists_firstNotTrue notAll
    exact ⟨c, first, first.evaluate_existsRow negated⟩
  · intro query' same
    rw [predict, predict, evaluate_existsRow_eq, evaluate_existsRow_eq, same]
  -- A value is predicted exactly if all conditions are true, and so only the limit can still let no row through.
  · rw [value]
    constructor
    · intro certain
      by_cases surely : ∀ c ∈ query.conditions, c.truth d = .ok (some true)
      · exact .inl (certain ⟨rfl, surely⟩).2
      · push Not at surely
        exact .inr surely
    · rintro (admits | ⟨c, mem, notTrue⟩) ⟨_, surely⟩
      · exact ⟨surely, admits⟩
      · exact absurd (surely c mem) notTrue

/-- The test whether a statement that is limited to no rows has one is predicted to hold, and its negation is
predicted not to, in either dialect; and the limit is written. -/
theorem predict_existsRow_of_no_rows :
    let query : Select Expr := ⟨[.constant (.int 1)], [], [], none, [], some 0⟩
    ¬ query.AdmitsRow .sqlite ∧ ¬ query.AdmitsRow .mysql ∧
      (existsRow false query).predict .sqlite = .ok (.value (.int 1)) ∧
      (existsRow true query).predict .mysql = .ok (.value (.int 0)) ∧
      (existsRow false query).render .sqlite = .ok "EXISTS (SELECT 1 LIMIT 0)" := by
  refine ⟨?_, ?_, by decide, by decide, by decide⟩
  · intro admits
    exact admits 0 rfl rfl
  · intro admits
    exact Int.lt_irrefl 0 (admits 0 rfl)

end Expr

end PivotOracle
