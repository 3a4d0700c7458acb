import PivotOracle.CommandLine.Arguments

/-!
# The program

Reads the files that a call names, runs the command and prints what it gives. A call that is wrong ends
with status 2.
-/

namespace PivotOracle

/-- The text of a file; none where it cannot be read. -/
def readText (name : Text) : IO (Option Text) := do
  match name.toString? with
  | none => return none
  | some path =>
    try
      return some (Text.ofUtf8 (← IO.FS.readBinFile path).toList)
    catch _ => return none

/-- The text of a file that an option may name; the outer none stands for a file that cannot be
read. -/
def readOption (name : Option Text) : IO (Option (Option Text)) := do
  match name with
  | none => return some none
  | some name => return (← readText name).map some

/-- A text as output takes it. -/
def printable (t : Text) : String := ((CommandResult.showBytes t).toString?).getD ""

/-- Tells how the program is called. -/
def usage : IO UInt32 := do
  (← IO.getStderr).putStrLn
    "Usage: [--debug] predict|trace|check INPUT [--dialect NAME] [--url URL] [--config FILE] [--setup FILE] [--answers FILE]"
  return 2

/-- Tells why a command failed. -/
def describe (f : CommandFailure) : Text :=
  match f with
  | .settings e => e.message
  | .engine e => e.message
  | .problems found => ("\n" : Text).intercalate (found.map Problem.text)
  | .expression e => e.message
  | .check e => e.message

/-- Runs the program with the words of its call; gives the status with which it ends. -/
def runProgram (words : List Text) : IO UInt32 := do
  let some a := Arguments.ofWords words | usage
  let document ← readText a.input
  let some settings ← readOption (a.option? "config") | usage
  let some setup ← readOption (a.option? "setup") | usage
  let some recorded ← readOption (a.option? "answers") | usage
  let some answers := readAnswers (recorded.getD []) | usage
  let i : Invocation :=
    { command := a.command, document, dialect := a.option? "dialect", url := a.option? "url",
      settings, setup, debug := a.debug }
  -- Recorded answers are those of no engine: each statement of a setup script is taken as it stands.
  match i.run some (cycling answers) with
  | none => usage
  | some r =>
    (← IO.getStdout).putStr (printable r.stdout)
    (← IO.getStderr).putStr (printable (r.stderr a.debug))
    match r.ending with
    | .failed f => (← IO.getStderr).putStrLn (printable (describe f))
    | _ => pure ()
    return UInt32.ofNat r.exitCode

end PivotOracle

/-- The program. -/
def main (words : List String) : IO UInt32 :=
  PivotOracle.runProgram (words.map PivotOracle.Text.ofString)
