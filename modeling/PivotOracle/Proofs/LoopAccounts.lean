import PivotOracle.Oracle.Loop

/-!
# Accounts of the check loop

The loop makes cases and has them checked, in turns, and its tally says what came of that. The calls that it
makes are recorded beside its state: a recording loop is the loop itself, over a state with a list of calls.

* `LoopCall`, `recorded` — calls, and computations that record themselves.
* `exchanges`, `FailingCalls` — calls by which cases are made and checked, and calls of which the last fails.
* `Recorded` — a computation and one that records its calls, which are exchanges up to a failure.
* `Recorded.pure`, `Recorded.bind`, `recorded_exchange`, `recorded_log` — the rules by which it is shown.
* `CaseAccounts`, `LoopAccounts` — what the numbers say of the exchanges, for one case and for all.
* `attemptCase_recorded`, `checkCasesFrom_recorded` — the accounts of a case, and of a run over cases.
* `checkCases_accounts` — the loop accounts for every case, and ends with the first call that fails.
-/

namespace PivotOracle

/-- Whether a prediction is given up. -/
def Prediction.isDiscarded : Prediction → Bool
  | .value _ => false
  | .discarded _ => true

/-- Computations of a loop: they have a state and may fail. -/
abbrev LoopM (φ σ : Type) := ExceptT φ (StateM σ)

/-! ### Calls -/

/-- A call that a loop makes, with its result. -/
inductive LoopCall (φ ε : Type) where
  | made (result : Except φ ε)
  | checked (e : ε) (result : Except φ Prediction)

section

variable {φ σ ε α β : Type}

/-- A computation that records itself as a call. -/
def recorded (call : Except φ α → LoopCall φ ε) (x : LoopM φ σ α) :
    LoopM φ (σ × List (LoopCall φ ε)) α :=
  ExceptT.mk fun s => ((x.run s.1).1, (x.run s.1).2, s.2 ++ [call (x.run s.1).1])

/-- The calls by which cases are made and checked, with the outcome of each check. -/
def exchanges (history : List (ε × Prediction)) : List (LoopCall φ ε) :=
  history.flatMap fun exchange => [.made (.ok exchange.1), .checked exchange.1 (.ok exchange.2)]

/-- Calls of which the last fails: a case is not made, or it is made and its check fails. -/
inductive FailingCalls (f : φ) : List (LoopCall φ ε) → Prop where
  | made : FailingCalls f [.made (.error f)]
  | checked (e : ε) : FailingCalls f [.made (.ok e), .checked e (.error f)]

/-- A computation ends with a value after exchanges, of which `Q` holds together with the value, or with the
failure of its last call. -/
def Ends (Q : α → List (ε × Prediction) → Prop) : Except φ α → List (LoopCall φ ε) → Prop
  | .ok a, calls => ∃ history, calls = exchanges history ∧ Q a history
  | .error f, calls => ∃ history last, calls = exchanges history ++ last ∧ FailingCalls f last

/-- A computation `y` does what `x` does, and beside the state it records the calls, which end with a value
and exchanges of which `Q` holds, or with a failure. -/
def Recorded (x : LoopM φ σ α) (y : LoopM φ (σ × List (LoopCall φ ε)) α)
    (Q : α → List (ε × Prediction) → Prop) : Prop :=
  ∀ s before, ∃ calls, y.run (s, before) = ((x.run s).1, (x.run s).2, before ++ calls) ∧
    Ends Q (x.run s).1 calls

theorem exchanges_append (first second : List (ε × Prediction)) :
    exchanges (φ := φ) (first ++ second) = exchanges first ++ exchanges second :=
  List.flatMap_append

/-- Every check in exchanges has an outcome. -/
theorem checked_error_notMem_exchanges (history : List (ε × Prediction)) (e : ε) (f : φ) :
    .checked e (.error f) ∉ exchanges history := by
  intro mem
  obtain ⟨exchange, _, called⟩ := List.mem_flatMap.mp mem
  simp at called

/-! ### Rules -/

variable {x : LoopM φ σ α} {y : LoopM φ (σ × List (LoopCall φ ε)) α} {P : α → List (ε × Prediction) → Prop}
  {Q : β → List (ε × Prediction) → Prop}

/-- Exchanges may come before what a computation calls. -/
theorem Ends.after {history : List (ε × Prediction)} {result : Except φ α} {calls : List (LoopCall φ ε)}
    (ends : Ends (fun a later => P a (history ++ later)) result calls) :
    Ends P result (exchanges history ++ calls) := by
  cases result with
  | ok a =>
      obtain ⟨later, rfl, holds⟩ := ends
      exact ⟨history ++ later, (exchanges_append ..).symm, holds⟩
  | error f =>
      obtain ⟨later, last, rfl, failing⟩ := ends
      exact ⟨history ++ later, last, by rw [exchanges_append, List.append_assoc], failing⟩

/-- A check that fails is the last call, and the computation fails as it does. -/
theorem Ends.last {result : Except φ α} {calls : List (LoopCall φ ε)} (ends : Ends P result calls) {e : ε}
    {f : φ} (failing : .checked e (.error f) ∈ calls) :
    result = .error f ∧ calls.getLast? = some (.checked e (.error f)) := by
  cases result with
  | ok a =>
      obtain ⟨history, rfl, _⟩ := ends
      exact absurd failing (checked_error_notMem_exchanges history e f)
  | error g =>
      obtain ⟨history, last, rfl, final⟩ := ends
      rcases List.mem_append.mp failing with earlier | mem
      · exact absurd earlier (checked_error_notMem_exchanges history e f)
      · cases final with
        | made => simp at mem
        | checked e' =>
            simp only [List.mem_cons, List.not_mem_nil, or_false, reduceCtorEq, false_or] at mem
            cases mem
            simp

theorem Recorded.pure {a : α} (holds : P a []) : Recorded (pure a : LoopM φ σ α) (pure a) P := by
  intro s before
  exact ⟨[], by rw [List.append_nil]; rfl, [], rfl, holds⟩

theorem Recorded.bind {f : α → LoopM φ σ β} {g : α → LoopM φ (σ × List (LoopCall φ ε)) β}
    (first : Recorded x y P)
    (next : ∀ a history, P a history → Recorded (f a) (g a) fun b later => Q b (history ++ later)) :
    Recorded (x >>= f) (y >>= g) Q := by
  intro s before
  obtain ⟨calls, ran, ends⟩ := first s before
  have run : (x >>= f).run s = ExceptT.bindCont f (x.run s).1 (x.run s).2 := rfl
  have run' : (y >>= g).run (s, before) =
      ExceptT.bindCont g (y.run (s, before)).1 (y.run (s, before)).2 := rfl
  rw [run, run', ran]
  cases result : (x.run s).1 with
  | ok a =>
      rw [result] at ends
      obtain ⟨history, rfl, holds⟩ := ends
      obtain ⟨later, ranLater, endsLater⟩ := next a history holds (x.run s).2 (before ++ exchanges history)
      refine ⟨exchanges history ++ later, ?_, endsLater.after⟩
      rw [← List.append_assoc]
      exact ranLater
  | error failure =>
      rw [result] at ends
      exact ⟨calls, rfl, ends⟩

/-- To make a case and to have it checked is an exchange, if neither fails. -/
theorem recorded_exchange (make : LoopM φ σ ε) (check : ε → LoopM φ σ Prediction) :
    Recorded (make >>= check) (recorded .made make >>= fun e => recorded (.checked e) (check e))
      fun outcome history => ∃ e, history = [(e, outcome)] := by
  intro s before
  have run : (make >>= check).run s = ExceptT.bindCont check (make.run s).1 (make.run s).2 := rfl
  have run' : (recorded .made make >>= fun e => recorded (.checked e) (check e)).run (s, before) =
      ExceptT.bindCont (fun e => recorded (.checked e) (check e)) (make.run s).1
        ((make.run s).2, before ++ [.made (make.run s).1]) := rfl
  rw [run, run']
  cases made : (make.run s).1 with
  | error f => exact ⟨[.made (.error f)], rfl, [], _, rfl, .made⟩
  | ok e =>
      refine ⟨[.made (.ok e)] ++ [.checked e ((check e).run (make.run s).2).1], ?_, ?_⟩
      · rw [← List.append_assoc]
        rfl
      · change Ends _ ((check e).run (make.run s).2).1 _
        cases ((check e).run (make.run s).2).1 with
        | ok outcome => exact ⟨[(e, outcome)], rfl, e, rfl⟩
        | error f => exact ⟨[], _, rfl, .checked e⟩

/-- What is logged is no call. -/
theorem recorded_log {f : σ → σ} :
    Recorded (modify f : LoopM φ σ Unit) (modify (Prod.map f id)) fun _ history =>
      history = ([] : List (ε × Prediction)) := by
  intro s before
  exact ⟨[], by rw [List.append_nil]; rfl, [], rfl, rfl⟩

/-! ### One case -/

variable (make : LoopM φ σ ε) (check : ε → LoopM φ σ Prediction)

/-- How often a case is discarded, and whether it is checked in the end, account for its exchanges. A case
that is not checked is discarded at all attempts, and one that is checked at fewer. -/
structure CaseAccounts (attempts discarded : Nat) (checked : Bool) (history : List (ε × Prediction)) :
    Prop where
  discards : history.countP (·.2.isDiscarded) = discarded
  exchanges : history.length = discarded + checked.toNat
  attempts : if checked then discarded < attempts else discarded = attempts

theorem caseAccounts_nil : CaseAccounts 0 0 false ([] : List (ε × Prediction)) := ⟨rfl, rfl, rfl⟩

theorem caseAccounts_value (attempts : Nat) (e : ε) (v : Scalar) :
    CaseAccounts (attempts + 1) 0 true [(e, .value v)] :=
  ⟨rfl, rfl, Nat.zero_lt_succ _⟩

/-- One more attempt is one more that is discarded. -/
theorem CaseAccounts.discarded {attempts discarded : Nat} {checked : Bool} {history : List (ε × Prediction)}
    (accounts : CaseAccounts attempts discarded checked history) (e : ε) (reason : Discard) :
    CaseAccounts (attempts + 1) (discarded + 1) checked ((e, .discarded reason) :: history) where
  discards := by
    rw [List.countP_cons, accounts.discards]
    rfl
  exchanges := by
    rw [List.length_cons, accounts.exchanges]
    omega
  attempts := by
    have := accounts.attempts
    split at this <;> simp_all

/-- The exchanges of a case are accounted for. -/
theorem attemptCase_recorded (attempts : Nat) :
    Recorded (attemptCase make check attempts)
      (attemptCase (recorded .made make) (fun e => recorded (.checked e) (check e)) attempts)
      fun outcome history => CaseAccounts attempts outcome.1 outcome.2 history := by
  induction attempts with
  | zero => exact .pure caseAccounts_nil
  | succ attempts ih =>
      rw [attemptCase, attemptCase, ← bind_assoc, ← bind_assoc]
      refine (recorded_exchange make check).bind ?_
      rintro outcome _ ⟨e, rfl⟩
      cases outcome with
      | value v => exact .pure (caseAccounts_value attempts e v)
      | discarded reason =>
          refine ih.bind fun outcome history accounts => .pure ?_
          rw [List.append_nil]
          exact accounts.discarded e reason

/-! ### All cases -/

/-- A tally accounts for the exchanges of so many cases. -/
structure LoopAccounts (attempts cases : Nat) (tally : LoopTally) (history : List (ε × Prediction)) :
    Prop where
  cases : tally.checked + tally.exhausted = cases
  discards : history.countP (·.2.isDiscarded) = tally.discarded
  exchanges : history.length = tally.checked + tally.discarded
  atLeast : tally.exhausted * attempts ≤ tally.discarded
  atMost : tally.discarded ≤ tally.exhausted * attempts + tally.checked * (attempts - 1)

theorem loopAccounts_nil (attempts : Nat) :
    LoopAccounts attempts 0 ⟨0, 0, 0⟩ ([] : List (ε × Prediction)) := by
  constructor <;> simp

/-- One more case goes into the accounts. -/
theorem LoopAccounts.add {attempts cases : Nat} {tally : LoopTally} {before : List (ε × Prediction)}
    (accounts : LoopAccounts attempts cases tally before) {discarded : Nat} {checked : Bool}
    {history : List (ε × Prediction)} (case : CaseAccounts attempts discarded checked history) :
    LoopAccounts attempts (cases + 1) (tally.add discarded checked) (before ++ history) := by
  obtain ⟨cases_eq, discards, exchanges, atLeast, atMost⟩ := accounts
  obtain ⟨caseDiscards, caseExchanges, caseAttempts⟩ := case
  cases checked with
  | true =>
      simp only [if_true] at caseAttempts
      constructor <;> simp only [LoopTally.add, if_true, List.countP_append, List.length_append]
      · omega
      · omega
      · simp only [Bool.toNat_true] at caseExchanges
        omega
      · omega
      · rw [Nat.succ_mul]
        omega
  | false =>
      simp only [Bool.false_eq_true, if_false] at caseAttempts
      constructor <;>
        simp only [LoopTally.add, Bool.false_eq_true, if_false, List.countP_append, List.length_append]
      · omega
      · omega
      · simp only [Bool.toNat_false] at caseExchanges
        omega
      · rw [Nat.succ_mul]
        omega
      · rw [Nat.succ_mul]
        omega

variable (log : LogLevel → Text → σ → σ)

/-- A run over the cases that are left goes on with the accounts of those before. -/
theorem checkCasesFrom_recorded (attempts : Int) (left index : Nat) {cases : Nat} {tally : LoopTally}
    {before : List (ε × Prediction)} (accounts : LoopAccounts attempts.toNat cases tally before) :
    Recorded
      (checkCasesFrom make check (fun level text => modify (log level text)) attempts left index tally)
      (checkCasesFrom (recorded .made make) (fun e => recorded (.checked e) (check e))
        (fun level text => modify (Prod.map (log level text) id)) attempts left index tally)
      fun tally history => LoopAccounts attempts.toNat (cases + left) tally (before ++ history) := by
  -- On the number of cases left. The accounts are those of the cases before, so each step adds one case to them.
  induction left generalizing index cases tally before with
  | zero =>
      refine .pure ?_
      rw [List.append_nil]
      exact accounts
  | succ left ih =>
      rw [checkCasesFrom, checkCasesFrom]
      refine (attemptCase_recorded make check attempts.toNat).bind fun outcome history case => ?_
      obtain ⟨discarded, checked⟩ := outcome
      have rest := ih (index + 1) (accounts.add case)
      simp only [Nat.add_assoc, Nat.add_comm 1 left, List.append_assoc] at rest
      cases checked with
      | true => exact rest
      | false =>
          refine recorded_log.bind ?_
          rintro _ _ rfl
          exact rest

theorem checkCases_recorded (cases attempts : Int) :
    Recorded
      (checkCases make check (fun level text => modify (log level text)) cases attempts)
      (checkCases (recorded .made make) (fun e => recorded (.checked e) (check e))
        (fun level text => modify (Prod.map (log level text) id)) cases attempts)
      fun tally history => LoopAccounts attempts.toNat cases.toNat tally history := by
  rw [checkCases, checkCases]
  refine (checkCasesFrom_recorded make check log attempts cases.toNat 0 (loopAccounts_nil _)).bind ?_
  intro tally history accounts
  refine recorded_log.bind ?_
  rintro _ _ rfl
  refine .pure ?_
  rw [Nat.zero_add, List.nil_append] at accounts
  rw [List.append_nil, List.append_nil]
  exact accounts

/-- The loop makes cases and has them checked, in turns, and to record its calls changes nothing else. What it
returns accounts for all of them: every case is checked or exhausted, each discard is counted, and of the
attempts at a case an exhausted one has all discarded, and a checked one all but one at most. A loop fails with
the failure of its last call, and a check that fails is the last call. -/
theorem checkCases_accounts (cases attempts : Int) (s : σ) :
    ∃ result s' calls,
      (checkCases make check (fun level text => modify (log level text)) cases attempts).run s =
        (result, s') ∧
      (checkCases (recorded .made make) (fun e => recorded (.checked e) (check e))
        (fun level text => modify (Prod.map (log level text) id)) cases attempts).run (s, []) =
        (result, s', calls) ∧
      (∀ tally, result = .ok tally → ∃ history, calls = exchanges history ∧
        history.length = tally.checked + tally.discarded ∧
        history.countP (·.2.isDiscarded) = tally.discarded ∧
        (tally.checked + tally.exhausted : Int) = max cases 0 ∧
        tally.exhausted * max attempts 0 ≤ tally.discarded ∧
        tally.discarded ≤ tally.exhausted * max attempts 0 + tally.checked * max (attempts - 1) 0) ∧
      (∀ f, result = .error f → ∃ history last, calls = exchanges history ++ last ∧ FailingCalls f last) ∧
      (∀ e f, .checked e (.error f) ∈ calls →
        result = .error f ∧ calls.getLast? = some (.checked e (.error f))) := by
  obtain ⟨calls, ran, ends⟩ := checkCases_recorded make check log cases attempts s []
  obtain ⟨result, s', plain⟩ : ∃ result s',
      (checkCases make check (fun level text => modify (log level text)) cases attempts).run s =
        (result, s') := ⟨_, _, rfl⟩
  rw [plain] at ran ends
  refine ⟨result, s', calls, plain, ran, ?_, ?_, fun e f failing => ends.last failing⟩
  · rintro tally rfl
    obtain ⟨history, same, accounts⟩ := ends
    -- The counts are of natural numbers, and bounds below zero count as zero.
    have most : (attempts.toNat : Int) = max attempts 0 := by omega
    have spared : ((attempts.toNat - 1 : Nat) : Int) = max (attempts - 1) 0 := by omega
    refine ⟨history, same, accounts.exchanges, accounts.discards, ?_, ?_, ?_⟩
    · have := accounts.cases
      omega
    · rw [← most]
      exact_mod_cast accounts.atLeast
    · rw [← most, ← spared]
      exact_mod_cast accounts.atMost
  · rintro f rfl
    exact ends

/-- Two cases of two attempts each: one is checked after a discard, and one is exhausted. -/
example :
    let next (_ : Unit) : LoopM Unit (List Prediction) Prediction := do
      match ← get with
      | [] => throw ()
      | outcome :: rest =>
        set rest
        return outcome
    let discard := Prediction.discarded .pivotFiltered
    (checkCases (pure ()) next (fun _ _ => modify id) 2 2).run [discard, .value .null, discard, discard] =
      (.ok ⟨1, 3, 1⟩, []) := by
  rfl

end

end PivotOracle
