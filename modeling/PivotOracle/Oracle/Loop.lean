import PivotOracle.Oracle.Check

/-!
# The check loop

Cases are made and checked until enough of them have been compared with the engine. A discarded case is
made again, up to a number of attempts. The loop does not depend on how cases are made or checked.

* `checkCases` — the number of cases that were checked, discarded and given up.
-/

namespace PivotOracle

/-- What became of the cases of a loop. -/
structure LoopTally where
  checked : Nat
  discarded : Nat
  /-- Cases of which every attempt was discarded. -/
  exhausted : Nat
deriving DecidableEq, Repr

/-- How many attempts are made at a case unless something else is said. -/
def defaultAttempts : Nat := 100

section

variable {m : Type → Type} [Monad m] {ε : Type}

/-- Makes and checks a case until it is not discarded, at most `attempts` times: how often it was
discarded, and whether it was checked in the end. -/
def attemptCase (make : m ε) (check : ε → m Prediction) : Nat → m (Nat × Bool)
  | 0 => return (0, false)
  | attempts + 1 => do
    match ← check (← make) with
    | .value _ => return (0, true)
    | .discarded _ =>
      let (discarded, checked) ← attemptCase make check attempts
      return (discarded + 1, checked)

/-- The summary with one more case. -/
def LoopTally.add (s : LoopTally) (discarded : Nat) (checked : Bool) : LoopTally :=
  if checked then { s with checked := s.checked + 1, discarded := s.discarded + discarded }
  else { s with discarded := s.discarded + discarded, exhausted := s.exhausted + 1 }

/-- Runs the cases from number `index` on, `left` of them. -/
def checkCasesFrom (make : m ε) (check : ε → m Prediction) (log : LogLevel → Text → m Unit)
    (attempts : Int) : Nat → Nat → LoopTally → m LoopTally
  | 0, _, summary => return summary
  | left + 1, index, summary => do
    let (discarded, checked) ← attemptCase make check attempts.toNat
    if !checked then
      log .warning ("[LOOP] case " ++ Text.ofNat index ++ " discarded " ++ Text.ofInt attempts
        ++ " times, skipping")
    checkCasesFrom make check log attempts left (index + 1) (summary.add discarded checked)

/-- Runs a number of cases, none where the number is negative. -/
def checkCases (make : m ε) (check : ε → m Prediction) (log : LogLevel → Text → m Unit)
    (cases attempts : Int) : m LoopTally := do
  let summary ← checkCasesFrom make check log attempts cases.toNat 0 ⟨0, 0, 0⟩
  log .info ("[LOOP] checked " ++ Text.ofNat summary.checked ++ " cases, discarded "
    ++ Text.ofNat summary.discarded)
  return summary

end

end PivotOracle
