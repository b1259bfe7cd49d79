import PeppolStatistics.Store.Record
import PeppolStatistics.Log.Channel

/-!
# Connections and sessions

All sessions of a database share one connection. What a session writes is seen on the connection
at once and becomes permanent with the next commit on it, by whichever session; a rollback on it
discards everything since. A session first keeps its records to itself and writes them before it
reads and before it commits. When writing fails the session can only be rolled back.

Every row of a table has an identifier of its own, which is drawn when the row is written. Nothing
is known of the identifiers but that they are texts; a connection knows those that are drawn next.
-/

namespace PeppolStatistics

/-! ## 1. Tables and connections -/

/-- A row of a table: its identifier and what it holds. -/
structure Row (α : Type) where
  id : String
  content : α

namespace Row

variable {α β : Type}

/-- The row with something else made of its content. -/
def map (f : α → β) (r : Row α) : Row β := ⟨r.id, f r.content⟩

@[simp] theorem id_map (f : α → β) (r : Row α) : (r.map f).id = r.id := rfl

@[simp] theorem content_map (f : α → β) (r : Row α) : (r.map f).content = f r.content := rfl

/-- New rows: each one is given the next identifier. -/
def numbered (ids : Nat → String) : List α → List (Row α)
  | [] => []
  | a :: as => ⟨ids 0, a⟩ :: numbered (fun n => ids (n + 1)) as

theorem content_numbered (ids : Nat → String) (as : List α) :
    (numbered ids as).map (·.content) = as := by
  induction as generalizing ids with
  | nil => rfl
  | cons a as ih => exact congrArg (a :: ·) (ih fun n => ids (n + 1))

theorem numbered_map (f : α → β) (ids : Nat → String) (as : List α) :
    numbered ids (as.map f) = (numbered ids as).map (·.map f) := by
  induction as generalizing ids with
  | nil => rfl
  | cons a as ih => exact congrArg (_ :: ·) (ih fun n => ids (n + 1))

/-- The later rows are given the later identifiers. -/
theorem numbered_append (ids : Nat → String) (as later : List α) :
    numbered ids (as ++ later) =
      numbered ids as ++ numbered (fun n => ids (n + as.length)) later := by
  induction as generalizing ids with
  | nil => rfl
  | cons a as ih => exact congrArg (_ :: ·) (ih fun n => ids (n + 1))

end Row

/-- What a database holds under the name of the table of items. -/
inductive ItemTable where
  | absent
  /-- A table without the columns of items. -/
  | foreign
  | rows (rows : List (Row StoredRecord))

namespace ItemTable

/-- The rows of a table of items. -/
def rows? : ItemTable → Except Failure (List (Row StoredRecord))
  | .rows rs => .ok rs
  | _ => .error .missingTable

/-- The table after it was asked for: a new one if there was none. -/
def created : ItemTable → ItemTable
  | .absent => .rows []
  | t => t

end ItemTable

/-- The one connection to a database: what is permanent, what is seen on it, and the identifiers
    that the next rows are given. -/
structure Connection where
  committed : ItemTable
  current : ItemTable
  ids : Nat → String

namespace Connection

/-- The connection to a database with some content. -/
def ofTable (t : ItemTable) (ids : Nat → String) : Connection := ⟨t, t, ids⟩

/-- The connection to a new database. -/
def fresh (ids : Nat → String) : Connection := .ofTable .absent ids

/-- Makes permanent what is seen. -/
def commit (c : Connection) : Connection := { c with committed := c.current }

/-- Discards what is not permanent. -/
def rollback (c : Connection) : Connection := { c with current := c.committed }

@[simp] theorem rollback_commit (c : Connection) : c.commit.rollback = c.commit := rfl

@[simp] theorem commit_rollback (c : Connection) : c.rollback.commit = c.rollback := rfl

end Connection

/-! ## 2. Sessions -/

/-- A unit of work on a connection: the records not yet written, whether the connection was used,
    and whether writing failed. -/
structure Session where
  pending : List StoredRecord
  began : Bool
  broken : Bool

namespace Session

/-- The session in which nothing was done. -/
def new : Session := ⟨[], false, false⟩

end Session

/-- What work in a session goes on: the connection, the session, and the log. -/
structure SessionState where
  connection : Connection
  session : Session
  trace : Trace

/-- Work in a session. -/
abbrev SessionWork := ExceptT Failure (StateM SessionState)

namespace SessionWork

variable {α : Type}

/-- Work that only logs, as work in a session. -/
def ofTraced (work : Traced α) : SessionWork α := fun s =>
  let (r, trace) := work s.trace
  (r, { s with trace })

/-- A result or a failure that was found without the session, as work in it. -/
def ofExcept : Except Failure α → SessionWork α
  | .ok a => pure a
  | .error e => throw e

/-- Work whose failure is an answer; the work goes on after it. -/
def attempt (work : SessionWork α) : SessionWork (Except Failure α) := fun s =>
  let (r, s) := work s
  (.ok r, s)

/-- Keeps some records in the session until they are written. -/
def add (rs : List StoredRecord) : SessionWork Unit :=
  modify fun s => { s with session := { s.session with pending := s.session.pending ++ rs } }

/-- The connection after some records were written to it as new rows. The times and dates of all
    of them are looked at first. -/
def write (c : Connection) (rs : List StoredRecord) : Except Failure Connection := do
  if rs.all (·.isTimed) then
    let present ← c.current.rows?
    let stored ← rs.mapM (·.asStored)
    return { c with
      current := .rows (present ++ Row.numbered c.ids stored)
      ids := fun n => c.ids (n + stored.length) }
  else throw .unstorable

/-- Writes the records that the session keeps. If that fails, what was seen and is not permanent
    is discarded, and the session can only be rolled back. -/
def flush : SessionWork Unit := fun s =>
  if s.session.pending.isEmpty then (.ok (), s)
  else if s.session.broken then (.error .pendingRollback, s)
  else
    match write s.connection s.session.pending with
    | .ok c => (.ok (), { s with connection := c, session := ⟨[], true, false⟩ })
    | .error e =>
      (.error e, { s with connection := s.connection.rollback, session := ⟨[], true, true⟩ })

/-- The rows of the table, those of the session included. -/
def read : SessionWork (List (Row StoredRecord)) := do
  flush
  let s ← get
  if s.session.broken then throw .pendingRollback
  set { s with session := { s.session with began := true } }
  ofExcept s.connection.current.rows?

/-- Ends the session by a commit. -/
def commit : SessionWork Unit := do
  flush
  let s ← get
  if s.session.broken then throw .pendingRollback
  if s.session.began then
    set { s with connection := s.connection.commit, session := Session.new }

/-- Ends the session by a rollback. A session that did not use the connection leaves it alone. -/
def rollback : SessionWork Unit :=
  modify fun s =>
    { s with
      connection := if s.session.began then s.connection.rollback else s.connection
      session := Session.new }

/-- Ends a session after a failure: it is rolled back, which is logged. -/
def abandon (e : Failure) : SessionWork Unit := do
  rollback
  ofTraced (Traced.log .warning "db.engine" "reporting_store_rolled_back" [] (some (.ofFailure e)))

end SessionWork

end PeppolStatistics
