import PivotOracle.Sql.Dialect

/-!
# Connections

How an engine is reached, as settings say it. The values are plain data and are not looked into before
they are used. A connection for one engine is refused where another one is wanted; a ready URL serves
for all.

* `Connection.ofFields` — the connection of named fields.
* `Connection.string` — the URL of a connection.
* `openEngine` — the engine that a dialect opens with a connection.
-/

namespace PivotOracle

/-- A way to reach an engine. -/
inductive Connection where
  /-- A server of MySQL. -/
  | server (host username password database port : Data)
  /-- A file of SQLite. -/
  | file (path : Data)
  /-- A ready URL. -/
  | url (address : Data)
  /-- Nothing that any engine can be reached by. -/
  | unspecified

/-- A kind of connection. -/
inductive ConnectionKind where
  | server
  | file
  | url
  | unspecified
deriving DecidableEq, Repr

/-- The name of a kind of connection. -/
def ConnectionKind.label : ConnectionKind → Text
  | .server => "MySQLConfig"
  | .file => "SQLiteConfig"
  | .url => "URLConfig"
  | .unspecified => "DialectConfig"

namespace Connection

/-- The kind of a connection. -/
def kind : Connection → ConnectionKind
  | .server .. => .server
  | .file _ => .file
  | .url _ => .url
  | .unspecified => .unspecified

/-- Whether all keys of a table are among those that are known. -/
def knownFields (known : List Text) (fields : Table) : Bool :=
  fields.all fun (key, _) => known.contains key

/-- The connection of named fields; none where a field is missing or is not known. -/
def ofFields (kind : ConnectionKind) (fields : Table) : Option Connection :=
  match kind with
  | .server => do
    let host ← fields.get? "host"
    let username ← fields.get? "username"
    let password ← fields.get? "password"
    let database ← fields.get? "database"
    let port := (fields.get? "port").getD (.int 3306)
    if knownFields ["host", "username", "password", "database", "port"] fields then
      some (.server host username password database port)
    else none
  | .file =>
    if knownFields ["path"] fields then some (.file ((fields.get? "path").getD .null)) else none
  | .url => do
    let url ← fields.get? "url"
    if knownFields ["url"] fields then some (.url url) else none
  | .unspecified => if fields.isEmpty then some .unspecified else none

/-- The URL of a connection, if it has one. A file without a path is a database in memory. -/
def string : Connection → Option Data
  | .server host username password database port =>
    some (.text ("mysql+pymysql://" ++ username.shown ++ ":" ++ password.shown ++ "@" ++ host.shown
      ++ ":" ++ port.shown ++ "/" ++ database.shown))
  | .file path => some (.text (if path.isTruthy then "sqlite:///" ++ path.shown else "sqlite://"))
  | .url address => some address
  | .unspecified => none

end Connection

/-- Why no engine is opened. -/
inductive EngineError where
  /-- MySQL has no engine without a connection. -/
  | noConnection
  /-- The connection is of another kind than the one that is wanted. -/
  | wrongKind (wanted given : ConnectionKind)
deriving DecidableEq, Repr

/-- The wording of a refusal to open an engine. -/
def EngineError.message : EngineError → Text
  | .noConnection => "MySQL requires connection details; pass a MySQLConfig."
  | .wrongKind wanted given =>
    "Invalid dialect configuration for type " ++ wanted.label ++ ", is <class 'pqs.dialect.config."
      ++ given.label ++ "'>"

/-- A call that opens an engine: the URL, and arguments for the driver if there are any. -/
structure EngineCall where
  url : Data
  arguments : Option Data

/-- The call that opens an engine by a connection of a given kind, or by a URL. -/
def engineCall (wanted : ConnectionKind) (c : Connection) (arguments : Data) :
    Except EngineError EngineCall :=
  if c.kind = wanted ∨ c.kind = .url then
    match c.string with
    | some url => .ok ⟨url, if arguments.isTruthy then some arguments else none⟩
    | none => .error (.wrongKind wanted c.kind)
  else .error (.wrongKind wanted c.kind)

/-- The call that opens the engine of a dialect. SQLite opens a database in memory where no connection
is given. -/
def openEngine (d : Dialect) (c : Option Connection) (arguments : Data) :
    Except EngineError EngineCall :=
  match d, c with
  | .mysql, none => .error .noConnection
  | .mysql, some c => engineCall .server c arguments
  | .sqlite, c => engineCall .file (c.getD (.file .null)) arguments

end PivotOracle
