import PeppolStatistics.Store.Connection
import PeppolStatistics.Report.Builder

/-!
# The store of items

Items are appended in a session and read back by period: those whose own calendar date lies in the
period, and that were recorded for a service provider if one is given. They come in the order of
their instants; items of one instant are ordered by the identifiers of their rows.
-/

namespace PeppolStatistics

/-! ## 1. Writing -/

namespace ItemStore

/-- The part of the library that logs what is written. -/
def loggerPart : String := "services.reporting_item_store"

/-- The part of the library that logs what is read. -/
def readerLoggerPart : String := "selectors.reporting_item"

/-- A service provider as a further field of a log line. -/
def providerValue (provider : Option String) : Value := (provider.map Value.text).getD .null

/-- The records of some values, numbered from `index` on; every value must be an item. -/
def recordsOf (provider : Option String) : Nat → List Value → Except Failure (List StoredRecord)
  | _, [] => .ok []
  | index, v :: vs =>
    match v with
    | .item i => do
      let r ← StoredRecord.ofItem i provider
      return r :: (← recordsOf provider (index + 1) vs)
    | _ => .error (.invalid ("items[" ++ toString index ++ "]") .itemExpected)

/-- Hands on a failure of the database as one of the store. -/
def asBackend {α : Type} (operation : BackendOperation) (work : SessionWork α) : SessionWork α :=
  fun s =>
    match work s with
    | (.error e, s) => (.error (if e.isDatabase then .backend operation else e), s)
    | r => r

/-- Stores the items that a value runs through; answers how many there were. -/
def storeAll (items : Value) (provider : Option String) : SessionWork Nat := do
  let some values := items.elements? | throw .wrongType
  let records ← SessionWork.ofExcept (recordsOf provider 0 values)
  asBackend .store do
    SessionWork.add records
    SessionWork.flush
  SessionWork.ofTraced (Traced.log .info loggerPart "reporting_items_stored"
    [("item_count", .int records.length), ("service_provider_id", providerValue provider)] none)
  return records.length

/-- Stores one item. -/
def store (item : Value) (provider : Option String) : SessionWork Unit := do
  let _ ← storeAll (.tuple [item]) provider

/-! ## 2. Reading -/

/-- Whether a row comes before another one: by the clock, then by the identifier. -/
def rowLe (a b : Row StoredRecord) : Bool :=
  a.content.clockOrder < b.content.clockOrder ||
    (a.content.clockOrder == b.content.clockOrder && a.id ≤ b.id)

/-- The rows of a period in their order. -/
def select (p : ReportPeriod) (provider : Option String) :
    SessionWork (List (Row StoredRecord)) := do
  let rows ← SessionWork.read
  return (rows.filter (·.content.belongs p provider)).mergeSort rowLe

/-- The items of a period. -/
def itemsOf (p : ReportPeriod) (provider : Option String) : SessionWork (List Item) := do
  let rows ← select p provider
  SessionWork.ofExcept (rows.mapM (·.content.toItem))

/-- Loads the items of a period. -/
def load (p : ReportPeriod) (provider : Option String) : SessionWork (List Item) :=
  asBackend .load do
    let items ← itemsOf p provider
    SessionWork.ofTraced (Traced.log .debug readerLoggerPart "reporting_items_loaded"
      [("period_start", .date p.first), ("period_end", .date p.last),
       ("service_provider_id", providerValue provider), ("item_count", .int items.length)] none)
    return items

/-- Loads the items of a period as a collection. -/
def loadCollection (p : ReportPeriod) (provider : Option String) : SessionWork Collection := do
  let items ← load p provider
  SessionWork.ofTraced (ReportBuilder.logCollection items.length)
  return ⟨items⟩

/-- The number of records of a period. -/
def count (p : ReportPeriod) (provider : Option String) : SessionWork Nat :=
  asBackend .count do
    let rows ← SessionWork.read
    return (rows.filter (·.content.belongs p provider)).length

/-- Hands the items of a period to a consumer, one after the other; answers how many there were
    and what the consumer made of them. -/
def forEach {σ : Type} (p : ReportPeriod) (provider : Option String) (consume : σ → Item → σ)
    (start : σ) : SessionWork (Nat × σ) := do
  let items ← itemsOf p provider
  return items.foldl (fun r i => (r.1 + 1, consume r.2 i)) (0, start)

/-- The report on a period for a reporter, built of the loaded items. -/
def report (kind : ReportKind) (p : ReportPeriod) (provider : Option String) (reporter : String) :
    SessionWork Report := do
  let items ← loadCollection p provider
  SessionWork.ofTraced do
    let b ← (ReportBuilder.new kind).set .period (.period p)
    let b ← b.set .reporterId (.text reporter)
    let b ← b.set .items (.collection items)
    b.build

end ItemStore

end PeppolStatistics
