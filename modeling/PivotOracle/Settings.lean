import PivotOracle.Connection
import PivotOracle.Data.Toml
import PivotOracle.Text.Lines

/-!
# Settings

What a settings file says of the engine and of the evaluation. The values of the evaluation are taken as
they stand, except that the number of attempts must compare with one and not be below it.

* `Settings.ofTable`, `Settings.read` — the settings of a table, and of a file in TOML.
-/

namespace PivotOracle

/-- The settings of a run. -/
structure Settings where
  dialect : Dialect
  connection : Option Connection
  seed : Data
  maxDiscardAttempts : Data
  cases : Data

/-- Why a file has no settings. -/
inductive SettingsError where
  /-- The text is no document. -/
  | malformed
  /-- Something other than a table stands where a table is looked into. -/
  | notTable
  /-- A value has a type that cannot be used, or a connection has the wrong fields. -/
  | wrongType
  | unknownDialect (u : UnknownWord)
  /-- The number of attempts is below one. -/
  | notPositive (shown : Text)
deriving DecidableEq, Repr

/-- The wording of an error in settings; none where there is nothing more to say than its kind. -/
def SettingsError.message : SettingsError → Text
  | .malformed | .notTable | .wrongType => ""
  | .unknownDialect u => u.message
  | .notPositive shown => "max_discard_attempts must be positive, got " ++ shown

namespace Settings

/-- The seed of random choices where none is set. -/
def defaultSeed : Data := .int 42

/-- The number of attempts at a case where none is set. -/
def defaultAttempts : Data := .int 100

/-- The number of cases where none is set. -/
def defaultCases : Data := .int 100

/-- The entry of data that must be a table, or a default. -/
def entryOr (d : Data) (key : Text) (default : Data) : Except SettingsError Data :=
  match d with
  | .table t => .ok ((Table.get? t key).getD default)
  | _ => .error .notTable

/-- The dialect that data names; SQLite where nothing is given. -/
def readDialect (d : Data) : Except SettingsError Dialect :=
  if d.isTruthy then
    match Dialect.vocabulary.read d with
    | .ok dialect => .ok dialect
    | .error u => .error (.unknownDialect u)
  else .ok .sqlite

/-- The kind of connection that is meant for a dialect. -/
def connectionKind : Dialect → ConnectionKind
  | .mysql => .server
  | .sqlite => .file

/-- The connection that data describes: by a URL, or by the fields that are meant for the dialect.
There is none where nothing is given. -/
def readConnection (dialect : Dialect) (d : Data) : Except SettingsError (Option Connection) :=
  match d with
  | .table fields =>
    match Table.get? fields "url" with
    | some address => .ok (some (.url address))
    | none =>
      if fields.isEmpty then .ok none
      else match Connection.ofFields (connectionKind dialect) fields with
        | some c => .ok (some c)
        | none => .error .wrongType
  | .text [] | .list [] => .ok none
  | _ => .error .wrongType

/-- Whether a number is below one; none for data that is no number. -/
def isBelowOne : Data → Option Bool
  | .bool b => some !b
  | .int n => some (n < 1)
  | .double (.finite x) => some (x.scaled < twoTo 1074)
  | .double (.infinite negative) => some negative
  | .double .notANumber => some false
  | _ => none

/-- The settings of a table. -/
def ofTable (t : Table) : Except SettingsError Settings := do
  let engine := (t.get? "engine").getD (.table [])
  let fields ← entryOr engine "config" (.table [])
  let dialect ← readDialect (← entryOr engine "dialect" .null)
  let connection ← readConnection dialect fields
  let evaluation := (t.get? "evaluation").getD (.table [])
  let attempts ← entryOr evaluation "max_discard_attempts" defaultAttempts
  match isBelowOne attempts with
  | none => .error .wrongType
  | some true => .error (.notPositive attempts.shown)
  | some false =>
    let seed ← entryOr evaluation "seed" defaultSeed
    let cases ← entryOr evaluation "cases" defaultCases
    return ⟨dialect, connection, seed, attempts, cases⟩

/-- The settings of the content of a file. -/
def read (content : Text) : Except SettingsError Settings :=
  match Toml.read content.unifyLines with
  | some t => ofTable t
  | none => .error .malformed

end Settings

end PivotOracle
