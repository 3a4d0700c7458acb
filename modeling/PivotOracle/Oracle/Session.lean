import PivotOracle.Draw
import PivotOracle.Oracle.Report
import PivotOracle.RawValue

/-!
# Sessions

A session with an engine: what the engine answers to each statement, the statements that it was given,
and what was logged. A computation in a session either gives a result or fails, and keeps what it has
executed and logged in both cases.
-/

namespace PivotOracle

/-- How much a log record matters. -/
inductive LogLevel where
  | debug
  | info
  | warning
  | error
deriving DecidableEq, Repr

/-- The name of a level. -/
def LogLevel.label : LogLevel → Text
  | .debug => "DEBUG"
  | .info => "INFO"
  | .warning => "WARNING"
  | .error => "ERROR"

/-- A record of the log. -/
structure LogRecord where
  level : LogLevel
  text : Text
deriving DecidableEq, Repr

/-- What an engine answers to a statement: the first value of the first row, or that there is no
row. -/
abbrev Answer := Option RawValue

/-- The answers of a script, over and over; null where the script is empty. -/
def cycling (script : List Answer) (i : Nat) : Answer :=
  script.getD (i % script.length) (some (.plain .null))

/-- A session with an engine. -/
structure Session where
  /-- The answer to each statement, by its place. -/
  answers : Nat → Answer
  /-- The statements executed so far, in order. -/
  executed : List Text := []
  /-- The log so far, in order. -/
  logs : List LogRecord := []

/-- Why a check fails. -/
inductive CheckFailure where
  /-- The expression has no value or no text. -/
  | expression (f : Failure)
  /-- The engine gave a value that is no scalar. -/
  | conversion (e : ConversionError)
  /-- The engine gave no row. -/
  | noRows (query : Text)
  /-- The engine disagrees. -/
  | mismatch (report : Mismatch)
  /-- A statement has a parameter without a value. -/
  | unbound (statement : Text)
  /-- There is nothing to choose from. -/
  | noOptions
  /-- No draw is left to choose by. -/
  | noDraw
deriving DecidableEq, Repr

/-- The message about a query that gives no row. -/
def noRowsMessage (query : Text) : Text := "Query returned no rows: " ++ query

/-- The wording of a failed check. -/
def CheckFailure.message : CheckFailure → Text
  | .expression f => f.message
  | .conversion e => e.message
  | .noRows query => noRowsMessage query
  | .mismatch report => report.defaultMessage
  | .unbound statement => "A value is required for a bind parameter: " ++ statement
  | .noOptions => emptyChoiceMessage
  | .noDraw => ""

/-- A computation in a session. -/
abbrev SessionM := ExceptT CheckFailure (StateM Session)

namespace SessionM

/-- Adds a record to the log. -/
def log (level : LogLevel) (text : Text) : SessionM Unit :=
  modify fun s => { s with logs := s.logs ++ [⟨level, text⟩] }

/-- Gives the engine a statement and takes its answer. -/
def execute (statement : Text) : SessionM Answer :=
  modifyGet fun s =>
    (s.answers s.executed.length, { s with executed := s.executed ++ [statement] })

/-- A result about an expression, as part of a session. -/
def lift {α : Type} (result : Except Failure α) : SessionM α :=
  match result with
  | .ok a => pure a
  | .error f => throw (.expression f)

end SessionM

end PivotOracle
