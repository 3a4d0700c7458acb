import PivotOracle.CommandLine
import PivotOracle.Proofs.CheckEndings
import PivotOracle.Proofs.StoredDocuments

/-!
# Setup scripts

A setup script that is made of statements with semicolons between them is taken apart at all its semicolons, those in
text literals included, after its lines are unified. The database library then reads each part, and refuses one with a
parameter. So the engine is given the statements whole, in order and before the checked query exactly where none of them
has a semicolon and each is read, with its lines unified, as itself.

* `setupParts_intercalate` — a script is taken apart as its statements are, one after the other.
* `Text.SemicolonsWithin` — no semicolon of a statement stands at its edge, as none in a text literal does.
* `Gives` — what a reader makes of the parts of a script, up to the first one that it refuses.
* `Gives.run_checkCommand_of_none`, `Gives.run_checkCommand_of_some` — a check after its setup, and without it.
* `Invocation.run_setup_iff` — what the engine is given, and when that is the statements of the script.
* `Invocation.run_setup_splits_literal` — a statement with a semicolon in a literal, given in two parts.
-/

namespace PivotOracle

/-! ### Parts of a script -/

/-- What ends a statement. -/
abbrev semicolon : Symbol := .char ';'

theorem setupParts_append (before after : Text) :
    setupParts (before ++ semicolon :: after) = setupParts before ++ setupParts after := by
  rw [setupParts, List.splitOn_append_cons_self, List.filter_append]
  rfl

theorem setupParts_of_notMem {t : Text} (absent : semicolon ∉ t) (notBlank : t.isBlank = false) :
    setupParts t = [t] := by
  rw [setupParts, List.splitOn_eq_singleton absent]
  simp [notBlank]

/-- A script of statements is taken apart as its statements are. -/
theorem setupParts_intercalate (statements : List Text) :
    setupParts ((";" : Text).intercalate statements) = statements.flatMap setupParts := by
  induction statements with
  | nil => rfl
  | cons t rest ih =>
      cases rest with
      | nil => simp
      | cons u rest =>
          have shape : (";" : Text).intercalate (t :: u :: rest) =
              t ++ semicolon :: (";" : Text).intercalate (u :: rest) := by
            rw [List.intercalate_cons_cons, List.append_assoc]
            rfl
          rw [shape, setupParts_append, ih]
          rfl

/-! ### Semicolons within a statement -/

namespace Text

theorem isBlank_eq_false_of_mem {t : Text} {s : Symbol} (mem : s ∈ t) (visible : s.isBlank = false) :
    t.isBlank = false :=
  List.all_eq_false.mpr ⟨s, mem, by rw [visible]; exact Bool.false_ne_true⟩

/-- Every semicolon stands between texts that are not blank. One in a text literal does: the quotes of the literal are
on both sides of it. -/
def SemicolonsWithin (t : Text) : Prop :=
  ∀ before after : Text, t = before ++ semicolon :: after → before.isBlank = false ∧ after.isBlank = false

/-- The mark at both ends of a text literal. -/
abbrev literalQuote : Symbol := .char '\''

/-- Whether semicolons stand in text literals only, and the literals are closed. A doubled quote ends a literal and
begins the next one, which leaves the reader inside. -/
def semicolonsQuoted (inside : Bool) : Text → Bool
  | [] => !inside
  | s :: t => (inside || s ≠ semicolon) && semicolonsQuoted (if s = literalQuote then !inside else inside) t

/-- Only a quote leads into a literal, or out of it. -/
theorem semicolonsQuoted_append {inside : Bool} {before rest : Text}
    (quoted : semicolonsQuoted inside (before ++ rest) = true) :
    ∃ inside', semicolonsQuoted inside' rest = true ∧ (inside' = inside ∨ literalQuote ∈ before) := by
  induction before generalizing inside with
  | nil => exact ⟨inside, quoted, .inl rfl⟩
  | cons s before ih =>
      rw [List.cons_append, semicolonsQuoted, Bool.and_eq_true] at quoted
      obtain ⟨inside', after, change⟩ := ih quoted.2
      refine ⟨inside', after, ?_⟩
      by_cases isQuote : s = literalQuote
      · exact .inr (isQuote ▸ List.mem_cons_self)
      · rw [if_neg isQuote] at change
        exact change.imp_right (List.mem_cons_of_mem s)

/-- A semicolon in a text literal has the quotes of the literal on both sides. -/
theorem SemicolonsWithin.of_quoted {t : Text} (quoted : semicolonsQuoted false t = true) : t.SemicolonsWithin := by
  rintro before after rfl
  obtain ⟨inside, rest, opened⟩ := semicolonsQuoted_append quoted
  rw [semicolonsQuoted, Bool.and_eq_true] at rest
  cases inside with
  | false => simp at rest
  | true =>
      have unclosed : semicolonsQuoted true (after ++ []) = true := by simpa using rest.2
      obtain ⟨outside, ended, closed⟩ := semicolonsQuoted_append unclosed
      have quoteBefore : literalQuote ∈ before := opened.resolve_left Bool.noConfusion
      have quoteAfter : literalQuote ∈ after := closed.resolve_left fun same => by simp [same, semicolonsQuoted] at ended
      exact ⟨isBlank_eq_false_of_mem quoteBefore rfl, isBlank_eq_false_of_mem quoteAfter rfl⟩

end Text

/-- A text has a part that is not blank, if it is not blank and ends in no semicolon. -/
theorem setupParts_ne_nil {t : Text} (notBlank : t.isBlank = false)
    (ends : ∀ before after : Text, t = before ++ semicolon :: after → after.isBlank = false) : setupParts t ≠ [] := by
  by_cases present : semicolon ∈ t
  · -- What follows the last semicolon is such a part.
    obtain ⟨after, before, shape, absent⟩ := List.eq_append_cons_of_mem (List.mem_reverse.mpr present)
    have split : t = before.reverse ++ semicolon :: after.reverse := by
      rw [← List.reverse_reverse t, shape]
      simp
    rw [split, setupParts_append, setupParts_of_notMem (mt List.mem_reverse.mp absent) (ends _ _ split)]
    simp
  · rw [setupParts_of_notMem present notBlank]
    exact List.cons_ne_nil _ _

/-- A statement is one part only if it has no semicolon. -/
theorem semicolon_notMem_of_length {t : Text} (within : t.SemicolonsWithin) (single : (setupParts t).length = 1) :
    semicolon ∉ t := by
  intro present
  obtain ⟨before, after, rfl, absent⟩ := List.eq_append_cons_of_mem present
  obtain ⟨visible, visible'⟩ := within before after rfl
  have more : setupParts after ≠ [] := setupParts_ne_nil visible' fun middle last split =>
    (within (before ++ semicolon :: middle) last (by rw [split]; simp)).2
  rw [setupParts_append, setupParts_of_notMem absent visible, List.length_append] at single
  have := List.length_pos_iff.mpr more
  simp only [List.length_singleton] at single
  omega

/-! ### Lines -/

namespace Text

theorem unifyLines_cons_of_ne {s : Symbol} (other : s ≠ .char '\r') (t : Text) :
    unifyLines (s :: t) = s :: unifyLines t := by
  rw [unifyLines] <;> simp [other]

/-- Nothing but line feeds comes to a text when its lines are unified. -/
theorem mem_of_mem_unifyLines {t : Text} {s : Symbol} (other : s ≠ .char '\n') (mem : s ∈ t.unifyLines) : s ∈ t := by
  fun_induction unifyLines t with
  | case1 t ih => simpa [other] using .inr (ih ((List.mem_cons.mp mem).resolve_left other))
  | case2 t _ ih => exact List.mem_cons_of_mem _ (ih ((List.mem_cons.mp mem).resolve_left other))
  | case3 first t _ _ ih => exact List.mem_cons.mpr ((List.mem_cons.mp mem).imp_right ih)
  | case4 => cases mem

theorem carriageReturn_notMem_unifyLines (t : Text) : .char '\r' ∉ t.unifyLines := by
  fun_induction unifyLines t with
  | case1 t ih => simpa using ih
  | case2 t _ ih => simpa using ih
  | case3 s t _ other ih => simpa [Ne.symm other] using ih
  | case4 => exact List.not_mem_nil

/-- The texts that have no carriage return are those whose lines are unified. -/
theorem unifyLines_eq_self_iff {t : Text} : t.unifyLines = t ↔ .char '\r' ∉ t := by
  constructor
  · intro same
    rw [← same]
    exact carriageReturn_notMem_unifyLines t
  · intro absent
    induction t with
    | nil => rfl
    | cons s t ih =>
        rw [List.mem_cons, not_or] at absent
        rw [unifyLines_cons_of_ne (Ne.symm absent.1), ih absent.2]

/-- Line ends are blank, unified or not. -/
theorem isBlank_unifyLines (t : Text) : t.unifyLines.isBlank = t.isBlank := by
  fun_induction unifyLines t with
  | case1 t ih => exact ih
  | case2 t _ ih => exact ih
  | case3 s t _ _ ih => exact congrArg (s.isBlank && ·) ih
  | case4 => rfl

/-- No line end has a semicolon in it. -/
theorem unifyLines_append_semicolon (before after : Text) :
    unifyLines (before ++ semicolon :: after) = unifyLines before ++ semicolon :: unifyLines after := by
  fun_induction unifyLines before with
  | case1 t ih => exact congrArg (Symbol.char '\n' :: ·) ih
  | case2 t single ih =>
      have still : ∀ rest : Text, t ++ semicolon :: after ≠ .char '\n' :: rest := by
        intro rest same
        cases t with
        | nil => cases same
        | cons s t =>
            cases same
            exact single t rfl
      rw [List.cons_append, unifyLines, ih]
      · rfl
      · exact still
  | case3 s t _ other ih => rw [List.cons_append, unifyLines_cons_of_ne other, ih, List.cons_append]
  | case4 => exact unifyLines_cons_of_ne (by decide) after

end Text

theorem setupParts_of_blank {t : Text} (absent : semicolon ∉ t) (blank : t.isBlank = true) : setupParts t = [] := by
  rw [setupParts, List.splitOn_eq_singleton absent]
  simp [blank]

/-- A script with unified lines has the parts of the script, with their lines unified. -/
theorem setupParts_unifyLines (t : Text) : setupParts t.unifyLines = (setupParts t).map Text.unifyLines := by
  -- The induction is on the length: what stands after the first semicolon is shorter.
  induction length : t.length using Nat.strongRecOn generalizing t with
  | ind n ih =>
      have withoutSemicolon {t : Text} (absent : semicolon ∉ t) :
          setupParts t.unifyLines = (setupParts t).map Text.unifyLines := by
        have absent' : semicolon ∉ t.unifyLines := mt (Text.mem_of_mem_unifyLines (by decide)) absent
        have blankAlike := t.isBlank_unifyLines
        cases blank : t.isBlank with
        | true =>
            rw [setupParts_of_blank absent blank, setupParts_of_blank absent' (blankAlike.trans blank)]
            rfl
        | false =>
            rw [setupParts_of_notMem absent blank, setupParts_of_notMem absent' (blankAlike.trans blank)]
            rfl
      by_cases present : semicolon ∈ t
      · obtain ⟨before, after, rfl, absent⟩ := List.eq_append_cons_of_mem present
        have shorter : after.length < n := by
          rw [← length, List.length_append, List.length_cons]
          omega
        rw [Text.unifyLines_append_semicolon, setupParts_append, setupParts_append, withoutSemicolon absent,
          ih _ shorter after rfl, List.map_append]
      · exact withoutSemicolon present

/-- The parts of joined statements, with unified lines, are those of each statement. -/
theorem setupParts_unifyLines_intercalate (statements : List Text) :
    setupParts (Text.unifyLines ((";" : Text).intercalate statements)) =
      statements.flatMap fun s => (setupParts s).map Text.unifyLines := by
  rw [setupParts_unifyLines, setupParts_intercalate, List.map_flatMap]

/-- Where each of some things is replaced by at least one, their number stays the same only if each is replaced by one. -/
theorem length_flatMap_eq_iff {α β : Type} {f : α → List β} {xs : List α} (atLeast : ∀ x ∈ xs, f x ≠ []) :
    (xs.flatMap f).length = xs.length ↔ ∀ x ∈ xs, (f x).length = 1 := by
  have grows (ys : List α) (atLeast : ∀ y ∈ ys, f y ≠ []) : ys.length ≤ (ys.flatMap f).length := by
    induction ys with
    | nil => exact Nat.le_refl 0
    | cons y ys ih =>
        have first := List.length_pos_iff.mpr (atLeast y List.mem_cons_self)
        have rest := ih fun x mem => atLeast x (List.mem_cons_of_mem _ mem)
        rw [List.flatMap_cons, List.length_append, List.length_cons]
        omega
  induction xs with
  | nil => simp
  | cons x xs ih =>
      have atLeastRest : ∀ y ∈ xs, f y ≠ [] := fun y mem => atLeast y (List.mem_cons_of_mem _ mem)
      have first := List.length_pos_iff.mpr (atLeast x List.mem_cons_self)
      have longer := grows xs atLeastRest
      refine Iff.trans ?_ (List.forall_mem_cons.trans (and_congr_right' (ih atLeastRest).symm)).symm
      rw [List.flatMap_cons, List.length_append, List.length_cons]
      omega

/-- Statements are as many parts as they are statements exactly if none of them has a semicolon. -/
theorem length_parts_eq_iff {statements : List Text}
    (proper : ∀ s ∈ statements, s.isBlank = false ∧ s.SemicolonsWithin) :
    (statements.flatMap fun s => (setupParts s).map Text.unifyLines).length = statements.length ↔
      ∀ s ∈ statements, semicolon ∉ s := by
  have atLeast : ∀ s ∈ statements, (setupParts s).map Text.unifyLines ≠ [] := fun s mem => by
    obtain ⟨notBlank, within⟩ := proper s mem
    exact mt List.map_eq_nil_iff.mp (setupParts_ne_nil notBlank fun before after split => (within _ _ split).2)
  rw [length_flatMap_eq_iff atLeast]
  refine forall₂_congr fun s mem => ?_
  obtain ⟨notBlank, within⟩ := proper s mem
  rw [List.length_map]
  constructor
  · exact semicolon_notMem_of_length within
  · intro absent
    rw [setupParts_of_notMem absent notBlank]
    rfl

/-- Statements without semicolons are parts as they stand, but for their lines. -/
theorem parts_of_notMem {statements : List Text} (notBlank : ∀ s ∈ statements, s.isBlank = false)
    (absent : ∀ s ∈ statements, semicolon ∉ s) :
    (statements.flatMap fun s => (setupParts s).map Text.unifyLines) = statements.map Text.unifyLines := by
  rw [← List.flatMap_singleton' (statements.map Text.unifyLines), List.flatMap_map]
  exact List.flatMap_congr fun s mem => by rw [setupParts_of_notMem (absent s mem) (notBlank s mem), List.map_singleton]

/-! ### Statements as they are read -/

/-- What a reader makes of the parts of a script: each becomes a statement, up to the first one that is refused. -/
inductive Gives (read : StatementReader) : List Text → List Text → Option Text → Prop where
  | done : Gives read [] [] none
  | statement {part statement : Text} {parts given : List Text} {refused : Option Text}
      (accepted : read part = some statement) (others : Gives read parts given refused) :
      Gives read (part :: parts) (statement :: given) refused
  | refused {part : Text} {parts : List Text} (unread : read part = none) : Gives read (part :: parts) [] (some part)

/-- How a setup ends, by the part that is refused. -/
def setupResult : Option Text → Except CheckFailure PUnit
  | none => .ok PUnit.unit
  | some part => .error (.unbound part)

section Gives

variable {read : StatementReader} {parts given given' : List Text} {refused refused' : Option Text}

theorem exists_gives (read : StatementReader) (parts : List Text) : ∃ given refused, Gives read parts given refused := by
  induction parts with
  | nil => exact ⟨[], none, .done⟩
  | cons part parts ih =>
      cases accepted : read part with
      | none => exact ⟨[], some part, .refused accepted⟩
      | some statement =>
          obtain ⟨given, refused, others⟩ := ih
          exact ⟨statement :: given, refused, .statement accepted others⟩

theorem Gives.unique (first : Gives read parts given refused) (second : Gives read parts given' refused') :
    given = given' ∧ refused = refused' := by
  induction first generalizing given' refused' with
  | done =>
      cases second
      exact ⟨rfl, rfl⟩
  | statement accepted others ih =>
      cases second with
      | statement accepted' others' =>
          obtain ⟨rfl, rfl⟩ := ih others'
          cases accepted.symm.trans accepted'
          exact ⟨rfl, rfl⟩
      | refused unread => cases accepted.symm.trans unread
  | refused unread =>
      cases second with
      | statement accepted others => cases unread.symm.trans accepted
      | refused unread' => exact ⟨rfl, rfl⟩

theorem Gives.length_eq (gives : Gives read parts given none) : given.length = parts.length := by
  generalize all : none = refused at gives
  induction gives with
  | done => rfl
  | statement accepted others ih => rw [List.length_cons, List.length_cons, ih all]
  | refused unread => cases all

/-- Texts that are read as others. -/
theorem gives_map_iff {f : Text → Text} {statements : List Text} :
    Gives read (statements.map f) statements none ↔ ∀ s ∈ statements, read (f s) = some s := by
  induction statements with
  | nil => exact iff_of_true .done nofun
  | cons s statements ih =>
      rw [List.forall_mem_cons, ← ih]
      constructor
      · rintro (_ | ⟨accepted, others⟩)
        exact ⟨accepted, others⟩
      · exact fun ⟨accepted, others⟩ => .statement accepted others

/-- A reader that takes texts as they stand gives them all. -/
theorem gives_some (parts : List Text) : Gives some parts parts none := by
  have all : ∀ part ∈ parts, some (id part) = some part := fun _ _ => rfl
  simpa using gives_map_iff.mpr all

/-- The parts of a script are given to the engine one after the other, until one is refused. -/
theorem Gives.run_forIn (gives : Gives read parts given refused) (s : Session) :
    (forIn parts PUnit.unit fun part _ => do
      let _ ← executePart read part
      pure (ForInStep.yield PUnit.unit) : SessionM PUnit).run s =
      (setupResult refused, { s with executed := s.executed ++ given }) := by
  induction gives generalizing s with
  | done =>
      rw [List.forIn_nil, List.append_nil]
      rfl
  | @statement part statement parts given refused accepted others ih =>
      have executed : (do
          let _ ← executePart read part
          pure (ForInStep.yield PUnit.unit) : SessionM (ForInStep PUnit)).run s =
          (.ok (.yield PUnit.unit), { s with executed := s.executed ++ [statement] }) := by
        rw [executePart, accepted]
        rfl
      rw [List.forIn_cons, SessionM.run_bind_of_ok executed, ih]
      simp
  | @refused part parts unread =>
      have failed : (do
          let _ ← executePart read part
          pure (ForInStep.yield PUnit.unit) : SessionM (ForInStep PUnit)).run s = (.error (.unbound part), s) := by
        rw [executePart, unread]
        rfl
      rw [List.forIn_cons, SessionM.run_bind_of_error failed, List.append_nil]
      rfl

theorem Gives.run_runSetup {script : Text} (gives : Gives read (setupParts script) given refused) (s : Session) :
    (runSetup read script).run s = (setupResult refused, { s with executed := s.executed ++ given }) := by
  rw [runSetup]
  have loop := gives.run_forIn s
  cases refused with
  | none => exact SessionM.run_bind_of_ok loop _
  | some part => exact SessionM.run_bind_of_error loop _

end Gives

/-! ### Checks -/

namespace Expr

/-- The queries of a check: the expression's own text, where there is a value to compare with the answer. -/
def checkQueries (d : Dialect) (e : Expr) : List Text :=
  match e.validate d, e.predict d with
  | .ok t, .ok (.value _) => ["SELECT " ++ t]
  | _, _ => []

section Check

variable {style : TraceStyle} {d : Dialect} {e : Expr} {s : Session}

/-- A check gives the engine these queries after what the engine was given before. -/
theorem executed_check : ((e.check style d).run s).2.executed = s.executed ++ e.checkQueries d := by
  have ends : CheckEnds style d e s ((e.check style d).run s).1 ((e.check style d).run s).2 := run_check_iff.mp rfl
  generalize ((e.check style d).run s).1 = result, ((e.check style d).run s).2 = after at ends
  unfold checkQueries
  cases ends with
  | rejected refused => simp [refused]
  | unpredicted accepted failed => simp [accepted, failed]
  | discarded accepted uncertain => simp [accepted, uncertain, Session.logged]
  | noRow asks => simp [asks.accepted, asks.predicted, Session.asked]
  | inconvertible asks => simp [asks.accepted, asks.predicted, Session.asked]
  | agreed asks => simp [asks.accepted, asks.predicted, Session.asked, Session.logged]
  | mismatched asks => simp [asks.accepted, asks.predicted, Session.asked, Session.logged]
  | untraced asks => simp [asks.accepted, asks.predicted, Session.asked]

/-- The query of a check has no parameters. -/
theorem map_check_ne_unbound (f : Prediction → Text) (part : Text) :
    ((e.check style d).run s).1.map f ≠ .error (.unbound part) := by
  have ends : CheckEnds style d e s ((e.check style d).run s).1 ((e.check style d).run s).2 := run_check_iff.mp rfl
  generalize ((e.check style d).run s).1 = result, ((e.check style d).run s).2 = after at ends
  cases ends <;> exact nofun

end Check

end Expr

section Gives

variable {read : StatementReader} {d : Dialect} {setup : Option Text} {e : Expr} {given : List Text}

/-- After a setup that is read, a check of the expression gives the engine its query. -/
theorem Gives.run_checkCommand_of_none
    (gives : Gives read (setupParts ((setup.map (·.unifyLines)).getD [])) given none) (s : Session) :
    (checkCommand read d setup e).run s =
      (((e.check {} d).run { s with executed := s.executed ++ given }).1.map (printedPrediction "Match: "),
        ((e.check {} d).run { s with executed := s.executed ++ given }).2) := by
  rw [checkCommand, SessionM.run_bind_of_ok (gives.run_runSetup s), SessionM.run_bind]
  cases ((e.check {} d).run { s with executed := s.executed ++ given }).1 <;> rfl

/-- Where a part is refused there is no check. -/
theorem Gives.run_checkCommand_of_some {part : Text}
    (gives : Gives read (setupParts ((setup.map (·.unifyLines)).getD [])) given (some part)) (s : Session) :
    (checkCommand read d setup e).run s = (.error (.unbound part), { s with executed := s.executed ++ given }) := by
  rw [checkCommand, SessionM.run_bind_of_error (gives.run_runSetup s)]

end Gives

/-- The command gives the engine these statements and no others, and none of a script is refused. -/
structure CommandResult.Executes (r : CommandResult) (statements : List Text) : Prop where
  executed : r.executed = statements
  accepted : ∀ part, r.ending ≠ .failed (.check (.unbound part))

/-- The library takes a text without colons for a statement as it stands. -/
def StatementReader.LeavesPlain (read : StatementReader) : Prop :=
  ∀ t : Text, .char ':' ∉ t → read t = some t

namespace Invocation

variable {i : Invocation} {d : Dialect} {e : Expr} {read : StatementReader}

/-- A check comes to the point where it runs its setup script: it opens an engine of the dialect, and reads the
expression. -/
structure Prepares (i : Invocation) (d : Dialect) (e : Expr) : Prop where
  isCheck : Command.ofName? i.command = some .check
  target : ∃ option c call, readDialectOption i.dialect = some option ∧
    checkTarget option i.url i.settings = .ok (d, c) ∧ openEngine d c (.table []) = .ok call
  expression : ∃ content, i.document = some content ∧ readExpression d content = .ok e

theorem Prepares.run (prepares : i.Prepares d e) (read : StatementReader) (answers : Nat → Answer) :
    ∃ r, i.run read answers = some r ∧
      r.executed = ((checkCommand read d i.setup e).run { answers }).2.executed ∧
      r.ending = endingOf (((checkCommand read d i.setup e).run { answers }).1.mapError .check) := by
  obtain ⟨option, c, call, dialect, target, opened⟩ := prepares.target
  obtain ⟨content, document, found⟩ := prepares.expression
  refine ⟨runCheck read answers option i content, ?_, ?_⟩
  · simp [Invocation.run, prepares.isCheck, dialect, document]
  · simp only [runCheck, target, opened, runAlone, found]
    exact ⟨rfl, rfl⟩

theorem endingOf_ne_unbound {result : Except CheckFailure Text} {part : Text}
    (other : result ≠ .error (.unbound part)) :
    endingOf (result.mapError .check) ≠ .failed (.check (.unbound part)) := by
  cases result with
  | ok t => exact nofun
  | error f =>
      cases f with
      | unbound part' =>
          intro same
          cases same
          exact other rfl
      | _ => exact nofun

/-- A check whose setup is read gives the engine the statements of the setup, and then its own query. -/
theorem Prepares.run_of_none (prepares : i.Prepares d e) {given : List Text}
    (gives : Gives read (setupParts ((i.setup.map (·.unifyLines)).getD [])) given none) (answers : Nat → Answer) :
    ∃ r, i.run read answers = some r ∧ r.Executes (given ++ e.checkQueries d) := by
  obtain ⟨r, ran, executed, ending⟩ := prepares.run read answers
  rw [gives.run_checkCommand_of_none] at executed ending
  refine ⟨r, ran, executed.trans Expr.executed_check, fun part => ?_⟩
  rw [ending]
  exact endingOf_ne_unbound (Expr.map_check_ne_unbound _ part)

/-- A check whose setup has a part that is refused ends there. -/
theorem Prepares.run_of_some (prepares : i.Prepares d e) {given : List Text} {part : Text}
    (gives : Gives read (setupParts ((i.setup.map (·.unifyLines)).getD [])) given (some part))
    (answers : Nat → Answer) :
    ∃ r, i.run read answers = some r ∧ r.executed = given ∧ r.ending = .failed (.check (.unbound part)) := by
  obtain ⟨r, ran, executed, ending⟩ := prepares.run read answers
  rw [gives.run_checkCommand_of_some] at executed ending
  exact ⟨r, ran, executed, ending⟩

/-- The statements of a script are read as they stand, one part each, exactly if none has a semicolon and each is read
as itself from its text with unified lines. -/
theorem gives_statements_iff {statements : List Text}
    (proper : ∀ s ∈ statements, s.isBlank = false ∧ s.SemicolonsWithin) :
    Gives read (statements.flatMap fun s => (setupParts s).map Text.unifyLines) statements none ↔
      ∀ s ∈ statements, semicolon ∉ s ∧ read s.unifyLines = some s := by
  have notBlank : ∀ s ∈ statements, s.isBlank = false := fun s mem => (proper s mem).1
  constructor
  · intro gives
    -- As many statements as parts: no statement is taken apart.
    have absent : ∀ s ∈ statements, semicolon ∉ s := (length_parts_eq_iff proper).mp gives.length_eq.symm
    rw [parts_of_notMem notBlank absent] at gives
    exact fun s mem => ⟨absent s mem, gives_map_iff.mp gives s mem⟩
  · intro whole
    rw [parts_of_notMem notBlank fun s mem => (whole s mem).1]
    exact gives_map_iff.mpr fun s mem => (whole s mem).2

/-- A text without colons is read as itself exactly if it has no carriage return. -/
theorem read_unifyLines_eq_some_iff (plain : read.LeavesPlain) {t : Text} (noColon : .char ':' ∉ t) :
    read t.unifyLines = some t ↔ .char '\r' ∉ t := by
  rw [plain _ (mt (Text.mem_of_mem_unifyLines (by decide)) noColon), Option.some.injEq, Text.unifyLines_eq_self_iff]

/-- A check whose script is made of statements, with semicolons between them and none at the edge of a statement, gives
the engine what the library reads the parts of the statements as, up to the first one that it refuses; if it refuses
none, the check's own query follows. The engine is given the statements themselves exactly if none of them has a
semicolon and each is read, with its lines unified, as itself. Where a text without colons is read as it stands, that
is what statements without colons, semicolons and carriage returns come to, and no others without colons. -/
theorem run_setup_iff (prepares : i.Prepares d e) {statements : List Text}
    (script : i.setup = some ((";" : Text).intercalate statements))
    (proper : ∀ s ∈ statements, s.isBlank = false ∧ s.SemicolonsWithin) (read : StatementReader)
    (answers : Nat → Answer) :
    ∃ r given refused, i.run read answers = some r ∧
      Gives read (statements.flatMap fun s => (setupParts s).map Text.unifyLines) given refused ∧
      (refused = none → r.Executes (given ++ e.checkQueries d)) ∧
      (∀ part, refused = some part → r.executed = given ∧ r.ending = .failed (.check (.unbound part))) ∧
      (r.Executes (statements ++ e.checkQueries d) ↔
        ∀ s ∈ statements, semicolon ∉ s ∧ read s.unifyLines = some s) ∧
      (read.LeavesPlain → (∀ s ∈ statements, .char ':' ∉ s) →
        (r.Executes (statements ++ e.checkQueries d) ↔
          ∀ s ∈ statements, semicolon ∉ s ∧ .char '\r' ∉ s)) := by
  obtain ⟨given, refused, gives⟩ :=
    exists_gives read (statements.flatMap fun s => (setupParts s).map Text.unifyLines)
  have parts : setupParts ((i.setup.map (·.unifyLines)).getD []) =
      statements.flatMap fun s => (setupParts s).map Text.unifyLines := by
    rw [script]
    exact setupParts_unifyLines_intercalate statements
  suffices both : ∃ r, i.run read answers = some r ∧ (refused = none → r.Executes (given ++ e.checkQueries d)) ∧
      (∀ part, refused = some part → r.executed = given ∧ r.ending = .failed (.check (.unbound part))) ∧
      (r.Executes (statements ++ e.checkQueries d) ↔ Gives read
        (statements.flatMap fun s => (setupParts s).map Text.unifyLines) statements none) by
    obtain ⟨r, ran, complete, broken, whole⟩ := both
    rw [gives_statements_iff proper] at whole
    refine ⟨r, given, refused, ran, gives, complete, broken, whole, fun plain noColon => whole.trans ?_⟩
    exact forall₂_congr fun s mem => and_congr_right' (read_unifyLines_eq_some_iff plain (noColon s mem))
  -- Either all parts are read, and the check goes on to its query, or one is refused and ends it.
  cases refused with
  | none =>
      obtain ⟨r, ran, executes⟩ := prepares.run_of_none (parts ▸ gives) answers
      refine ⟨r, ran, fun _ => executes, nofun, ?_, ?_⟩
      · intro whole
        rwa [List.append_cancel_right (executes.executed.symm.trans whole.executed)] at gives
      · intro whole
        rwa [(gives.unique whole).1] at executes
  | some part =>
      obtain ⟨r, ran, executed, ending⟩ := prepares.run_of_some (parts ▸ gives) answers
      refine ⟨r, ran, nofun, ?_, ?_, ?_⟩
      · rintro _ ⟨⟩
        exact ⟨executed, ending⟩
      · exact fun whole => absurd ending (whole.accepted part)
      · exact fun whole => nomatch (gives.unique whole).2

/-- A check of `NULL` by the rules of SQLite, with a setup script. -/
def ofSetup (script : Text) : Invocation where
  command := "check"
  document := some (Json.write (Expr.constant .null).store)
  dialect := none
  url := none
  settings := none
  setup := some script
  debug := false

theorem prepares_ofSetup (script : Text) : (ofSetup script).Prepares .sqlite (.constant .null) := by
  have fits : (Expr.constant .null).store.Fits (maxDocumentDepth + 1) :=
    Data.fits_storedForm rfl (by simpa using Scalar.fits_null.mono (by decide))
  have oneLine : (Json.write (Expr.constant .null).store).unifyLines = Json.write (Expr.constant .null).store := rfl
  have loaded : loadExprDocument (Json.write (Expr.constant .null).store) = .value (.constant .null) :=
    loadExprDocumentWithin_write.mpr fits
  have found : readExpression .sqlite (Json.write (Expr.constant .null).store) = .ok (.constant .null) := by
    rw [readExpression, oneLine, loaded]
    rfl
  exact ⟨rfl, ⟨none, none, _, rfl, rfl, rfl⟩, ⟨_, rfl, found⟩⟩

/-- Of two statements, the second one is given to the engine in the two parts of its literal. -/
theorem run_setup_iff_literal :
    ∃ r, (ofSetup "CREATE TABLE t (c TEXT);INSERT INTO t VALUES ('a;b')").run some (fun _ => none) = some r ∧
      r.executed = ["CREATE TABLE t (c TEXT)", "INSERT INTO t VALUES ('a", "b')", "SELECT NULL"] := by
  have script : (ofSetup "CREATE TABLE t (c TEXT);INSERT INTO t VALUES ('a;b')").setup =
      some ((";" : Text).intercalate ["CREATE TABLE t (c TEXT)", "INSERT INTO t VALUES ('a;b')"]) := by decide
  have proper : ∀ s ∈ (["CREATE TABLE t (c TEXT)", "INSERT INTO t VALUES ('a;b')"] : List Text),
      s.isBlank = false ∧ s.SemicolonsWithin := by
    rintro s (_ | ⟨_, _ | ⟨_, ⟨⟩⟩⟩)
    · exact ⟨rfl, .of_quoted rfl⟩
    · exact ⟨rfl, .of_quoted rfl⟩
  obtain ⟨r, given, refused, ran, gives, complete, -⟩ :=
    run_setup_iff (prepares_ofSetup _) script proper some fun _ => none
  obtain ⟨rfl, rfl⟩ := gives.unique (gives_some _)
  exact ⟨r, ran, (complete rfl).executed.trans (by decide)⟩

/-- Semicolons in literals only, and still the engine is not given the statements of the script. -/
theorem run_setup_splits_literal :
    ¬ ∀ statements : List Text,
      (∀ s ∈ statements, s.isBlank = false ∧ Text.semicolonsQuoted false s = true) →
      ∀ r, (ofSetup ((";" : Text).intercalate statements)).run some (fun _ => none) = some r →
        r.executed = statements ++ [("SELECT NULL" : Text)] := by
  intro whole
  obtain ⟨r, ran, executes⟩ := (prepares_ofSetup ((";" : Text).intercalate ["INSERT INTO t VALUES ('a;b')"])).run_of_none
    (gives_some _) fun _ => none
  have same := whole ["INSERT INTO t VALUES ('a;b')"] (by decide) r ran
  rw [executes.executed] at same
  exact absurd same (by decide)

end Invocation

end PivotOracle
