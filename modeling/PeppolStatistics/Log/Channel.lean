import PeppolStatistics.Log.Record

/-!
# Logging

Log lines go to one handler. The first call of `configure` attaches it and sets the level below
which nothing is written; further calls change nothing until a `reset`. A call with a level that
does not exist fails, and counts as the first one all the same.
-/

namespace PeppolStatistics

/-! ## 1. Levels -/

/-- The levels at which lines are logged. -/
inductive Level where
  | debug
  | info
  | warning
  | error
  | critical
deriving DecidableEq, Repr

namespace Level

/-- The rank of a level. -/
def number : Level → Int
  | .debug => 10
  | .info => 20
  | .warning => 30
  | .error => 40
  | .critical => 50

/-- The name of a level. -/
def name : Level → String
  | .debug => "DEBUG"
  | .info => "INFO"
  | .warning => "WARNING"
  | .error => "ERROR"
  | .critical => "CRITICAL"

/-- The rank that a name stands for; some levels have two names. -/
def numberOfName? : String → Option Int
  | "CRITICAL" | "FATAL" => some 50
  | "ERROR" => some 40
  | "WARN" | "WARNING" => some 30
  | "INFO" => some 20
  | "DEBUG" => some 10
  | "NOTSET" => some 0
  | _ => none

/-- The rank that a value stands for: a number, or a text that is the name of a level. -/
def numberOf : Value → Except Failure Int
  | .int n => .ok n
  | .bool b => .ok (if b then 1 else 0)
  | .text s =>
    match numberOfName? s with
    | some n => .ok n
    | none => .error (.unknownLevelName (quoted s))
  | v => .error (v.refusal fun _ => .wrongType)

end Level

/-! ## 2. The state of logging -/

/-- The state of logging, for handlers of any kind. -/
structure Logging (η : Type) where
  configured : Bool
  handlers : List η
  level : Int
  propagates : Bool
deriving DecidableEq, Repr

namespace Logging

variable {η : Type}

/-- The state after a reset, and at the beginning. -/
def initial : Logging η := ⟨false, [], Level.warning.number, true⟩

/-- Attaches a handler with a level, if it is the first call; the second component is the
    failure of the call. -/
def configure (s : Logging η) (handler : η) (level : Value) : Logging η × Option Failure :=
  if s.configured then (s, none)
  else match Level.numberOf level with
    | .error e => ({ s with configured := true }, some e)
    | .ok n =>
      ({ configured := true, handlers := s.handlers ++ [handler], level := n,
         propagates := false }, none)

/-- The call with what is given as a handler: it may refuse to take the form of the lines, which it
    is asked for before the level is looked at. -/
def configureWith (s : Logging η) (target : Except Failure η) (level : Value) :
    Logging η × Option Failure :=
  match target with
  | .ok handler => s.configure handler level
  | .error e => if s.configured then (s, none) else ({ s with configured := true }, some e)

/-- Undoes `configure`. -/
def reset (_ : Logging η) : Logging η := initial

@[simp] theorem configure_of_configured {s : Logging η} (h : s.configured = true) (handler : η)
    (level : Value) : s.configure handler level = (s, none) := by simp [configure, h]

@[simp] theorem reset_eq (s : Logging η) : s.reset = initial := rfl

/-- The level that counts: the level zero stands for that of the outermost logger. -/
def effectiveLevel (s : Logging η) : Int := if s.level = 0 then Level.warning.number else s.level

/-- Whether lines of a level are written. -/
def accepts (s : Logging η) (l : Level) : Bool := s.effectiveLevel ≤ l.number

/-- The names that further fields of a record must not have. -/
def takenNames : List String := "message" :: "asctime" :: recordAttributes

/-- The handlers that receive a record of a rank with some further fields: the own ones, and if
    records propagate those of the outermost logger. Nothing is recorded at the rank zero or below
    it. Names that the record keeps for itself are refused, if the record is made at all. -/
def emit (s : Logging η) (outer : List η) (rank : Int) (extra : List (String × Value)) :
    Except Failure (List η) :=
  if 0 < rank ∧ s.effectiveLevel ≤ rank then
    match extra.find? fun f => takenNames.contains f.1 with
    | some f => .error (.recordFieldTaken (quoted f.1))
    | none => .ok (s.handlers ++ if s.propagates then outer else [])
  else .ok []

/-- The handlers that receive a record of a level, where the outermost logger has none. -/
def deliver (s : Logging η) (l : Level) (extra : List (String × Value)) :
    Except Failure (List η) :=
  s.emit [] l.number extra

end Logging

/-- The name of the logger for a part of the library. -/
def loggerName (part : String) : String := "reporting_kernel." ++ part

/-! ## 3. Work that logs -/

/-- A record with its level. -/
structure LogEvent where
  level : Level
  record : LogRecord

/-- What logging work carries along: the context, and the records made so far. -/
structure Trace where
  context : LogContext
  events : List LogEvent

/-- Work that logs and may fail; the records made before a failure stay. -/
abbrev Traced := ExceptT Failure (StateM Trace)

namespace Traced

variable {α : Type}

/-- Logs a message with further fields and an exception. -/
def log (level : Level) (part message : String) (extra : List (String × Value))
    (fault : Option LoggedFault) : Traced Unit :=
  modify fun t =>
    let record : LogRecord :=
      { level := .text level.name, logger := .text (loggerName part), message := .text message,
        context := t.context, extra, fault }
    { t with events := t.events ++ [⟨level, record⟩] }

/-- Work with some fields of the context set; afterwards the context is what it was. -/
def within (fields : List (String × Value)) (work : Traced α) : Traced α := fun t =>
  match t.context.merge fields with
  | .error e => (.error e, t)
  | .ok inner =>
    let (r, t') := work { t with context := inner }
    (r, { t' with context := t.context })

/-- A result or a failure that was found without logging. -/
def ofExcept : Except Failure α → Traced α
  | .ok a => pure a
  | .error e => throw e

/-- The result and the trace of some work. -/
def runFrom (context : LogContext) (work : Traced α) : Except Failure α × Trace :=
  work.run ⟨context, []⟩

end Traced

end PeppolStatistics
