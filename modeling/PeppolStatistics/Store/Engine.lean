import PeppolStatistics.Store.Block
import PeppolStatistics.Store.Items

/-!
# The engine of the store

The engine is set up by a database URL and holds the one connection of all sessions. Setting it up
anew lets go of the old connection first, and with it of a database in memory; this happens even
if the new URL turns out to be wrong, and the old engine is kept then.

Only databases that need no server are covered. Those on a server, with their pools of connections
and an isolation of their own, are not: the dialect of such a URL counts as unknown.
-/

namespace PeppolStatistics

/-! ## 1. Database URLs -/

/-- Where a database is. -/
inductive DatabaseUrl where
  | memory
  | file (path : String)
deriving DecidableEq, Repr

namespace DatabaseUrl

/-- The name of the dialect of a URL and what follows the separator. -/
def splitDialect (cs : List Char) : Option (List Char × List Char) :=
  let isName (c : Char) : Bool := c.isAlphanum || c == '_' || c == '+'
  match cs.dropWhile isName with
  | ':' :: '/' :: '/' :: rest =>
    let name := cs.takeWhile isName
    if name.isEmpty then none else some (name, rest)
  | _ => none

/-- The database of a URL. Only databases in memory and in files are known; a URL names no host. -/
def parse (s : String) : Except Failure DatabaseUrl :=
  match splitDialect s.toList with
  | none => .error .badDatabaseUrl
  | some (name, rest) =>
    if name != "sqlite".toList && name != "sqlite+pysqlite".toList then .error .unknownDialect
    else
      match rest.takeWhile (· != '?') with
      | [] => .ok .memory
      | '/' :: path =>
        if path.isEmpty || path == ":memory:".toList then .ok .memory
        else .ok (.file (String.ofList path))
      | _ => .error .badDatabaseUrl

end DatabaseUrl

/-! ## 2. Engines -/

/-- An engine: the place of its database and its connection. -/
structure Engine where
  url : DatabaseUrl
  connection : Connection

namespace Engine

/-- The engine after its connection was closed: a database in memory is lost, one in a file keeps
    what is permanent. -/
def disposed (e : Engine) : Engine :=
  match e.url with
  | .memory => { e with connection := .fresh e.connection.ids }
  | .file _ => { e with connection := e.connection.rollback }

end Engine

/-- Where engines live: the databases in files by their paths, the identifiers for the rows of the
    next engine, and the engine that is set up. -/
structure StoreHost where
  files : String → ItemTable
  ids : Nat → String
  engine : Option Engine

namespace StoreHost

/-- The host without an engine and without files; its rows are numbered. -/
def empty : StoreHost := ⟨fun _ => .absent, toString, none⟩

/-- The host after its engine let go of its connection; what it made permanent in a file is there
    for others. -/
def released (h : StoreHost) : StoreHost :=
  match h.engine with
  | none => h
  | some e =>
    match e.url with
    | .memory => { h with ids := e.connection.ids, engine := some e.disposed }
    | .file path =>
      { files := fun p => if p = path then e.connection.committed else h.files p
        ids := e.connection.ids
        engine := some e.disposed }

/-- The connection to a database. -/
def connect (h : StoreHost) : DatabaseUrl → Connection
  | .memory => .fresh h.ids
  | .file path => .ofTable (h.files path) h.ids

/-- Work on the host that logs. -/
abbrev Work := ExceptT Failure (StateM (StoreHost × Trace))

/-- Work that only logs, as work on the host. -/
def ofTraced {α : Type} (work : Traced α) : Work α := fun s =>
  let (r, trace) := work s.2
  (r, (s.1, trace))

/-- The database that a value names. -/
def urlOf (v : Value) : Except Failure DatabaseUrl :=
  match v.asText? with
  | some s => DatabaseUrl.parse s
  | none => .error .noSuchAttribute

/-- Whether a value is known as a setting for showing statements: nothing, a truth value, a number
    equal to one, or the word for showing results as well. -/
def knownEcho : Value → Bool
  | .null => true
  | .bool _ => true
  | .int n => n == 0 || n == 1
  | .real x => x.toInt? == some 0 || x.toInt? == some 1
  | .text s => s == "debug"
  | _ => false

/-- A setting for showing statements must be known. -/
def checkEcho (v : Value) : Except Failure Unit :=
  if knownEcho v then .ok ()
  else if v.hashable then .error (.missingKey (v.toText.toOption.getD ""))
  else .error .wrongType

/-- The database of a new engine; the URL is looked at first. -/
def databaseOf (url echo : Value) : Except Failure DatabaseUrl := do
  let u ← urlOf url
  checkEcho echo
  return u

/-- Sets up the engine for a database, with any setting for showing statements. -/
def initialiseWith (url echo : Value) : Work Unit := do
  modify fun s => (s.1.released, s.2)
  match databaseOf url echo with
  | .error e => throw e
  | .ok u =>
    modify fun s => ({ s.1 with engine := some ⟨u, s.1.connect u⟩ }, s.2)
    ofTraced (Traced.log .info "db.engine" "engine_initialized"
      [("dialect", .text "sqlite"), ("echo", echo)] none)

/-- Sets up the engine for a database. -/
def initialise (url : Value) (echo : Bool) : Work Unit := initialiseWith url (.bool echo)

/-- The engine that is set up. -/
def current : Work Engine := do
  match (← get).1.engine with
  | some e => return e
  | none => throw .notInitialised

/-- The name of the dialect of the engine. -/
def dialect : Work String := do
  let _ ← current
  return "sqlite"

/-- Changes the connection of the engine. -/
def setConnection (c : Connection) : Work Unit :=
  modify fun s => ({ s.1 with engine := s.1.engine.map fun e => { e with connection := c } }, s.2)

/-- Creates the table of items if it is not there. -/
def createTables : Work Unit := do
  let e ← current
  setConnection (.ofTable e.connection.current.created e.connection.ids)
  ofTraced (Traced.log .info "db.engine" "tables_created"
    [("tables", .list [.text "peppol_reporting_items"])] none)

/-- Drops the table of items. -/
def dropTables : Work Unit := do
  let e ← current
  setConnection (.fresh e.connection.ids)

/-- Forgets the engine. -/
def resetEngine : Work Unit := modify fun s => ({ s.1.released with engine := none }, s.2)

/-- One unit of work on the store: the answers of the steps that succeeded, and the failure that
    ended them. -/
def scope {α : Type} (steps : List (SessionWork α)) : Work (List α × Option Failure) := do
  let e ← current
  let (r, c, t) := SessionWork.scope steps e.connection (← get).2
  setConnection c
  modify fun s => (s.1, t)
  return r

end StoreHost

end PeppolStatistics
