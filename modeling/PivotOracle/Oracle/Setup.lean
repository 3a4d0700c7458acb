import PivotOracle.Oracle.Session
import PivotOracle.Text.Blank

/-!
# Setup scripts

A setup script makes the rows that expressions are about. Its statements end at semicolons, wherever
these stand, and what is blank between two of them is no statement. A statement may have parameters,
marked by colons, and none is given a value. Reading the marks is the business of the database library,
which is no part of this program.

* `StatementReader` — how the library reads a statement.
* `runSetup` — gives the engine the statements of a script.
-/

namespace PivotOracle

/-- The statement that an engine is given for a text; none where the text has a parameter, for which
there is no value. -/
abbrev StatementReader := Text → Option Text

/-- The parts of a script between semicolons that are not blank. -/
def setupParts (script : Text) : List Text :=
  (script.splitOn (.char ';')).filter fun part => !part.isBlank

/-- Gives the engine what a part of a script is read as. -/
def executePart (read : StatementReader) (part : Text) : SessionM Answer :=
  match read part with
  | some statement => SessionM.execute statement
  | none => throw (.unbound part)

/-- Gives the engine the statements of a script, in order. -/
def runSetup (read : StatementReader) (script : Text) : SessionM Unit := do
  for part in setupParts script do
    let _ ← executePart read part

end PivotOracle
