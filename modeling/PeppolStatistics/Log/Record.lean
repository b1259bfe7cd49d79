import PeppolStatistics.Log.Context

/-!
# Log records and lines

A log record is written as one line of JSON: the time, the level, the logger, the message, the
context, the further fields, and what the attached exception contributes. A further field never
displaces one that stands before it; the fields of an exception replace further fields of the same
name. Part 1 says how values appear in a line, part 2 which fields a line has, part 3 what time it
shows.
-/

namespace PeppolStatistics

/-! ## 1. Values in lines -/

namespace Value

/-- A key of a dictionary in a line: texts, numbers, truth values and nothing can be keys. A number
    must be one that can be written. -/
def lineKey : Value → Except Failure String
  | .null => .ok "null"
  | .bool b => .ok (if b then "true" else "false")
  | .int n => (Numeral.writable n).map toString
  | .real x => .ok (String.ofList (Json.encodeReal x))
  | v =>
    match v.asText? with
    | some s => .ok s
    | none => .error .wrongType

mutual

/-- A value as it appears in a line: dates as ISO text, and whatever is neither a plain value nor
    a date as its text. A number must be one that can be written. -/
def toLine : Value → Except Failure Document
  | .null => .ok .null
  | .bool b => .ok (.bool b)
  | .int n => (Numeral.writable n).map .int
  | .real x => .ok (.real x)
  | .text s => .ok (.text s)
  | .direction d => .ok (.text d.text)
  | .dimension d => .ok (.text d.text)
  | .list vs => (allToLine vs).map .list
  | .tuple vs => (allToLine vs).map .list
  | .dict es => (entriesToLine es).map .map
  | .date d => .ok (.text d.iso)
  | .dateTime t => .ok (.text t.iso)
  | .uuid s => .ok (.text s)
  | .identifier i => .ok (.text i.uri)
  | .item i => (Value.item i).toText.map .text
  | .collection c => .ok (.text c.text)
  | .period p => .ok (.text p.text)
  | .counts c => (Value.counts c).toText.map .text
  | .fault kind args set => (Value.fault kind args set).toText.map .text
  | .record typeName fields => (Value.record typeName fields).toText.map .text

/-- Some values as they appear in a line. -/
def allToLine : List Value → Except Failure (List Document)
  | [] => .ok []
  | v :: vs => do return (← toLine v) :: (← allToLine vs)

/-- The entries of a dictionary as they appear in a line. -/
def entriesToLine : List (Value × Value) → Except Failure (List (String × Document))
  | [] => .ok []
  | (k, v) :: es => do return (← lineKey k, ← toLine v) :: (← entriesToLine es)

end

/-- Named values as they appear in a line. -/
def fieldsToLine : List (String × Value) → Except Failure (List (String × Document))
  | [] => .ok []
  | (n, v) :: fields => do return (n, ← toLine v) :: (← fieldsToLine fields)

end Value

/-! ## 2. The fields of a line -/

/-- What a line shows of an exception. -/
structure LoggedFault where
  typeName : String
  /-- The text of the exception, which is made when the line is. -/
  message : Except Failure String
  code : Value
  attributes : List (String × Value)
  /-- The name in the last line of the trace, where there is a trace that names no places. -/
  tracedAs : Option String

namespace LoggedFault

/-- An exception that was never raised. -/
def ofValue (kind : FaultKind) (args : List Value) (set : List (String × Value)) : LoggedFault :=
  { typeName := kind.name
    message := (Value.fault kind args set).toText
    code := Value.faultCode kind set
    attributes := Value.faultAttributes kind args set
    tracedAs := some kind.qualifiedName }

/-- A failure that was raised. -/
def ofFailure (f : Failure) : LoggedFault where
  typeName := f.kind.name
  message := .ok f.text
  code := (f.kind.code?.map Value.text).getD .null
  attributes := match f with
    | .invalid field defect => [("field", .text field), ("reason", .text defect.message)]
    | .incomplete report field =>
      [("report_type", .text report.title), ("field", .text field.name)]
    | .backend operation => [("operation", .text operation.name), ("reason", .text "")]
    | _ => []
  tracedAs := none

/-- The last line of the trace of an exception with a message. -/
def traceLine (name message : String) : String :=
  if message = "" then name else name ++ ": " ++ message

/-- The fields that an exception with a message contributes: its type, its message and its code,
    then its attributes, except those that begin with an underscore. An attribute with the name of
    one of the three takes its place. -/
def fieldsWith (f : LoggedFault) (message : String) : List (String × Value) :=
  let shown := f.attributes.filter fun a => !a.1.startsWith "_" && a.1 != "code"
  Document.collapse
    ([("exc_type", .text f.typeName), ("exc_message", .text message)]
      ++ (match f.code with
        | .null => []
        | code => [("exc_code", code)])
      ++ shown.map fun a => ("exc_" ++ a.1, a.2))
    ++ ((f.tracedAs.map fun n => [("traceback", Value.text (traceLine n message))]).getD [])

/-- The fields that an exception contributes. -/
def toFields (f : LoggedFault) : Except Failure (List (String × Value)) :=
  f.message.map f.fieldsWith

end LoggedFault

/-- The names that a record keeps for itself. -/
def recordAttributes : List String :=
  ["name", "msg", "args", "levelname", "levelno", "pathname", "filename", "module", "exc_info",
   "exc_text", "stack_info", "lineno", "funcName", "created", "msecs", "relativeCreated", "thread",
   "threadName", "processName", "process"]

/-- The names of further fields that lines do not show. -/
def hiddenNames : List String := recordAttributes ++ ["message", "taskName"]

/-- A log record, without its time. -/
structure LogRecord where
  level : Value
  logger : Value
  message : Value
  context : LogContext
  extra : List (String × Value)
  fault : Option LoggedFault

namespace LogRecord

/-- Adds a field at the end unless one of its name is there. -/
def addNew (fields : List (String × Value)) (f : String × Value) : List (String × Value) :=
  if fields.any fun g => g.1 == f.1 then fields else fields ++ [f]

/-- The fields before those of the exception, `time` and `message` being the texts of the time and
    the message. -/
def plainFields (r : LogRecord) (time message : String) : List (String × Value) :=
  let shown := (Document.collapse r.extra).filter fun f => !hiddenNames.contains f.1
  shown.foldl addNew
    ([("ts", .text time), ("level", r.level), ("logger", r.logger), ("message", .text message)]
      ++ r.context.toEntries)

/-- What the exception contributes, if there is one. -/
def faultFields (r : LogRecord) : Except Failure (List (String × Value)) :=
  match r.fault with
  | none => .ok []
  | some f => f.toFields

/-- The fields of the line, with the text of the message and what the exception contributes. -/
def fieldsWith (r : LogRecord) (time message : String) (contributed : List (String × Value)) :
    List (String × Value) :=
  contributed.foldl (fun fs e => Document.put e.1 e.2 fs) (r.plainFields time message)

/-- The fields of the line. The text of the message is made before that of the exception. -/
def fields (r : LogRecord) (time : String) : Except Failure (List (String × Value)) := do
  let message ← r.message.toText
  return r.fieldsWith time message (← r.faultFields)

/-- The line as a document. -/
def document (r : LogRecord) (time : String) : Except Failure Document := do
  return .map (← Value.fieldsToLine (← r.fields time))

/-- The line. -/
def line (r : LogRecord) (time : String) : Except Failure String :=
  (r.document time).map Document.json

/-- The record with further fields set on it; the names that it keeps for itself change what it
    says of itself. -/
def withExtra (r : LogRecord) (extra : List (String × Value)) : LogRecord :=
  let es := Document.collapse extra
  { r with
    level := (es.lookup "levelname").getD r.level
    logger := (es.lookup "name").getD r.logger
    message := (es.lookup "msg").getD r.message
    extra := extra }

end LogRecord

/-! ## 3. The time of a line -/

/-- The date with a day number; one beyond the last year is named by its year. -/
def dateOfNumber (n : Nat) : Except DateTextError Date :=
  let p := Date.partsOfOrdinal n
  Date.ofParts p.1 p.2.1 p.2.2

/-- The universal time at a number of microseconds after the beginning of 1970. -/
def universalTime (micros : Int) : Except DateTextError DateTime :=
  let day := micros / 86400000000 + 719163
  let time : TimeOfDay := ⟨(micros % 86400000000).toNat, by unfold dayMicros; omega⟩
  if 1 ≤ day then (dateOfNumber day.toNat).map fun date => ⟨date, time, some .utc⟩
  else
    -- whole cycles of 400 years make the day number positive
    let cycles := day.natAbs / 146097 + 1
    let year := (Date.partsOfOrdinal (day + cycles * 146097).toNat).1
    .error (.yearOutOfRange ((year : Int) - 400 * cycles))

/-- The microseconds of a number of seconds; the fraction is rounded to the nearest, a tie to the
    even one. -/
def microsOfSeconds : Value → Option Int
  | .int n => some (n * 1000000)
  | .real x => do
    let (whole, rest) ← x.splitWhole?
    let us ← (rest.mul (Binary64.ofRatio false 1000000 1)).round?
    return whole * 1000000 + us
  | _ => none

/-- The text of the time that a record was made, given in seconds after the beginning of 1970. -/
def recordTime (created : Value) : Except Failure String :=
  match microsOfSeconds created with
  | none => .error .wrongType
  | some us => ((universalTime us).map DateTime.iso).mapError .dateText

/-- The line of a record that was made at a time, given in seconds after the beginning of 1970. -/
def LogRecord.lineAt (r : LogRecord) (created : Value) : Except Failure String := do
  r.line (← recordTime created)

end PeppolStatistics
