import PivotOracle.Oracle.Check
import PivotOracle.Oracle.Setup
import PivotOracle.Settings
import PivotOracle.Stored.Load
import PivotOracle.Text.Control

/-!
# Commands

What the program does when it is called: `predict` prints the value of a stored expression, `trace` the
values of all its parts, and `check` compares its value with that of an engine. A command is a function of
its options, of the contents of the files they name, of the answers of the engine and of how the database
library reads statements.

* `Invocation.run` — what a command prints, and how it ends.
-/

namespace PivotOracle

/-- What the program can be asked to do. -/
inductive Command where
  | predict
  | trace
  | check
deriving DecidableEq, Repr

/-- The command of a name. -/
def Command.ofName? (name : Text) : Option Command :=
  if name = "predict" then some .predict
  else if name = "trace" then some .trace
  else if name = "check" then some .check
  else none

/-- A call of the program: the options, with the contents of files in the place of their names. -/
structure Invocation where
  command : Text
  /-- The stored expression; none where there is no such file. -/
  document : Option Text
  dialect : Option Text
  url : Option Text
  settings : Option Text
  setup : Option Text
  /-- Whether the whole log is shown. -/
  debug : Bool

/-- Why a command ends with an error that it does not treat itself. -/
inductive CommandFailure where
  | settings (e : SettingsError)
  | engine (e : EngineError)
  | problems (found : List Problem)
  | expression (f : Failure)
  | check (f : CheckFailure)
deriving DecidableEq, Repr

/-- How a command ends. -/
inductive Ending where
  /-- With a text for the standard output. -/
  | printed (t : Text)
  /-- With a message about an expression that the dialect cannot express. -/
  | refused (message : Text)
  /-- With a disagreement of the engine. -/
  | mismatch (report : Mismatch)
  | failed (f : CommandFailure)

/-- All that can be seen of a command. -/
structure CommandResult where
  ending : Ending
  logs : List LogRecord
  /-- The calls that opened engines. -/
  engines : List EngineCall
  /-- The statements that the engine was given. -/
  executed : List Text

/-! ### Options -/

/-- A letter in lower case; the long s is an s. -/
def foldedLetter : Symbol → Symbol
  | .char 'ſ' => .char 's'
  | .char c => .char c.toLower
  | s => s

/-- The dialect of an option, whatever the case of its letters. -/
def dialectOption (word : Text) : Option Dialect :=
  [Dialect.mysql, .sqlite].find? fun d => d.label = word.map foldedLetter

/-- The dialect of an option that need not be given; none where the word is not known. -/
def readDialectOption : Option Text → Option (Option Dialect)
  | none => some none
  | some word => (dialectOption word).map some

/-- A connection of settings, unless a URL is given. -/
def effectiveConnection (url : Option Text) (c : Option Connection) : Option Connection :=
  match url with
  | some (s :: t) => some (.url (.text (s :: t)))
  | _ => c

/-! ### Commands -/

/-- The stored expression of a file, which the dialect must be able to express. -/
def readExpression (d : Dialect) (content : Text) : Except CommandFailure Expr :=
  match loadExprDocument content.unifyLines with
  | .problems found => .error (.problems found)
  | .value e =>
    match e.validate d with
    | .ok _ => .ok e
    | .error f => .error (.expression f)

/-- The ending of a command that fails; a refused expression has a message of its own. -/
def Ending.ofFailure : CommandFailure → Ending
  | .expression (.rejected c d) => .refused (unsupportedMessage c d)
  | .check (.mismatch report) => .mismatch report
  | f => .failed f

/-- What is printed for the outcome of a prediction, with a word before the value. -/
def printedPrediction (label : Text) : Prediction → Text
  | .value v => label ++ v.shown ++ "\n"
  | .discarded reason => "Uninformative: " ++ reason.message ++ "\n"

/-- The result of a computation that may end with a failure. -/
def endingOf (result : Except CommandFailure Text) : Ending :=
  match result with
  | .ok t => .printed t
  | .error f => .ofFailure f

/-- A command that opens no engine. -/
def runAlone (answers : Nat → Answer) (d : Dialect) (content : Text)
    (command : Expr → SessionM Text) : CommandResult :=
  match readExpression d content with
  | .error f => ⟨.ofFailure f, [], [], []⟩
  | .ok e =>
    let (result, session) := (command e).run { answers }
    ⟨endingOf (result.mapError .check), session.logs, [], session.executed⟩

/-- Prints the predicted value of an expression. -/
def predictCommand (d : Dialect) (e : Expr) : SessionM Text := do
  return printedPrediction "" (← e.predictLogged d)

/-- Prints every part of an expression with its value. -/
def traceCommand (d : Dialect) (e : Expr) : SessionM Text := SessionM.lift (e.trace {} d)

/-- Runs a setup script, then checks an expression. -/
def checkCommand (read : StatementReader) (d : Dialect) (setup : Option Text) (e : Expr) : SessionM Text := do
  runSetup read ((setup.map (·.unifyLines)).getD [])
  return printedPrediction "Match: " (← e.check {} d)

/-- The dialect and the connection of a check: those of the settings, unless options say otherwise. -/
def checkTarget (dialect : Option Dialect) (url settings : Option Text) :
    Except SettingsError (Dialect × Option Connection) := do
  match settings with
  | none => return (dialect.getD .sqlite, effectiveConnection url none)
  | some content =>
    let s ← Settings.read content
    return (dialect.getD s.dialect, effectiveConnection url s.connection)

/-- Checks an expression against the engine that the options name. -/
def runCheck (read : StatementReader) (answers : Nat → Answer) (dialect : Option Dialect) (i : Invocation)
    (content : Text) : CommandResult :=
  match checkTarget dialect i.url i.settings with
  | .error e => ⟨.failed (.settings e), [], [], []⟩
  | .ok (d, connection) =>
    match openEngine d connection (.table []) with
    | .error e => ⟨.failed (.engine e), [], [], []⟩
    | .ok call =>
      { runAlone answers d content (checkCommand read d i.setup) with engines := [call] }

/-- Whether options are given that name an engine or prepare it. -/
def Invocation.namesEngine (i : Invocation) : Bool :=
  i.url.isSome || i.settings.isSome || i.setup.isSome

/-- Runs a command; none where the call itself is wrong. Only a check takes options about the
engine. -/
def Invocation.run (i : Invocation) (read : StatementReader) (answers : Nat → Answer) :
    Option CommandResult := do
  let command ← Command.ofName? i.command
  let content ← i.document
  let dialect ← readDialectOption i.dialect
  let d := dialect.getD .mysql
  match command with
  | .check => some (runCheck read answers dialect i content)
  | .predict =>
    if i.namesEngine then none else some (runAlone answers d content (predictCommand d))
  | .trace =>
    if i.namesEngine then none else some (runAlone answers d content (traceCommand d))

/-! ### Output -/

namespace CommandResult

/-- A text in which a stray byte is shown by its code, for an output that takes characters alone. -/
def showBytes (t : Text) : Text :=
  t.flatMap fun
    | .char c => [.char c]
    | .byte b => "\\u" ++ (hexDigits 4 (Symbol.byte b).code).map Symbol.char

/-- The status with which the program ends. -/
def exitCode (r : CommandResult) : Nat :=
  match r.ending with
  | .printed _ => 0
  | _ => 1

/-- The standard output, without control sequences. -/
def stdout (r : CommandResult) : Text :=
  match r.ending with
  | .printed t => t.dropControls
  | _ => []

/-- The records of the log that are shown: warnings and errors, or all of them. -/
def shownLogs (r : CommandResult) (debug : Bool) : List LogRecord :=
  r.logs.filter fun record => debug || record.level = .warning || record.level = .error

/-- The standard error: the log as it stands, and what the ending adds to it, without control
sequences. -/
def stderr (r : CommandResult) (debug : Bool) : Text :=
  let ending : Text := match r.ending with
    | .refused message => "Error: " ++ message ++ "\n"
    | .mismatch report => "Mismatch\n" ++ report.render ++ "\n"
    | _ => []
  let log : Text := (r.shownLogs debug).flatMap fun record => record.text ++ [.char '\n']
  showBytes (log ++ ending.dropControls)

end CommandResult

end PivotOracle
