import PeppolStatistics.Report.Configuration
import PeppolStatistics.Log.Channel

/-!
# Report builders

A builder collects a configuration by setters, says whether it is complete, and builds the report.
Setting items from values makes a collection, which is logged; an incomplete builder logs what is
missing before it fails.
-/

namespace PeppolStatistics

/-- A builder of one kind of report. The transaction statistics may be grouped by dimensions,
    which are looked at only when the report is built. -/
structure ReportBuilder where
  kind : ReportKind
  dimensions : List Value
  configuration : ReportConfiguration

namespace ReportBuilder

/-- The builder of a kind of report, as it starts. -/
def new (kind : ReportKind) : ReportBuilder := ⟨kind, [], .default kind⟩

/-- The part of the library that logs for a builder. -/
def loggerPart (b : ReportBuilder) : String :=
  match b.kind with
  | .tsr => "modules.tsr.builder"
  | .eusr => "modules.eusr.builder"

/-- Logs that a collection of some size was made. -/
def logCollection (size : Nat) : Traced Unit :=
  Traced.log .debug "domain.collection" "item_collection_created"
    [("item_count", .int size)] none

/-- Sets one thing. -/
def set (b : ReportBuilder) (s : Setter) (v : Value) : Traced ReportBuilder := do
  let c ← Traced.ofExcept (b.configuration.set s v)
  match s, v, c.items with
  | .items, .collection _, _ => pure ()
  | .items, _, .collection made => logCollection made.items.length
  | _, _, _ => pure ()
  return { b with configuration := c }

/-- Logs a finding: what is missing as a warning, completeness for debugging. -/
def logFinding (b : ReportBuilder) (f : Finding) : Traced Unit :=
  Traced.log (if f = .complete then .debug else .warning) b.loggerPart f.message f.extra none

/-- Whether the configuration is complete; the finding is logged if asked for. -/
def isComplete (b : ReportBuilder) (logFindings : Bool) : Traced Bool := do
  let (field, findings) := b.configuration.examine logFindings
  findings.forM b.logFinding
  return field.isNone

/-- The text of a value that is one. -/
def textOf (v : Value) : String := v.asText?.getD ""

/-- The report of a complete configuration with a period and a collection. -/
def assemble (b : ReportBuilder) (period : ReportPeriod) (items : Collection) :
    Except Failure Report :=
  let c := b.configuration
  let header : ReportHeader := ⟨period, textOf c.reporterId, textOf c.reporterIdScheme⟩
  match b.kind with
  | .tsr => do
    let dims ← Dimension.ofValues b.dimensions
    return .tsr ⟨textOf c.customizationId, textOf c.profileId, header, items.transactionTotal,
      items.transactionSubsets dims⟩
  | .eusr =>
    .ok (.eusr ⟨textOf c.customizationId, textOf c.profileId, header, items.totals,
      items.endUserSubsets⟩)

/-- Builds the report and logs it, with the kind of report and the reporter in the log context. -/
def build (b : ReportBuilder) : Traced Report :=
  let c := b.configuration
  Traced.within [("report_type", .text b.kind.title), ("reporter_id", c.reporterId)] do
    if ← b.isComplete true then
      match c.period?, c.items with
      | some period, .collection items =>
        let report ← Traced.ofExcept (b.assemble period items)
        Traced.log .info b.loggerPart "report_built"
          [("period_start", .date period.first), ("period_end", .date period.last),
           ("item_count", .int items.items.length)] none
        return report
      | _, _ => throw .noSuchAttribute
    else
      match c.firstIncomplete? with
      | some f => throw (.incomplete b.kind f)
      | none => throw .noSuchAttribute

end ReportBuilder

end PeppolStatistics
