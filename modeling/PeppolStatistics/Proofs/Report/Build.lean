import PeppolStatistics.Proofs.Log.Traced
import PeppolStatistics.Proofs.Report.Completeness
import PeppolStatistics.Report.Builder

/-!
# Building a report

What a builder answers does not depend on the log, and the log context is afterwards what it was.

* `isComplete_silent`, `isComplete_logged`: whether the configuration is complete, with and without
  a line in the log;
* `build_answers_outcome`: building answers `outcome`, which is said without the log;
* `build_answers`: from a complete configuration the report is assembled.
-/

namespace PeppolStatistics

/-- **What a line tells of an examination**: a warning that names the first field that is not
    filled, or a trace if all are. -/
def LogEvent.Tells (e : LogEvent) : Option RequiredField → Prop
  | some f => e.level = .warning ∧ e.record.extra = [("missing_field", .text f.name)]
  | none => e.level = .debug ∧ e.record.extra = []

namespace ReportBuilder

open Traced

/-! ## 1. Asking whether the configuration is complete -/

/-- Without a log nothing is logged. -/
theorem isComplete_silent (b : ReportBuilder) (t : Trace) :
    b.isComplete false t = (.ok b.configuration.isComplete, t) := by
  rw [isComplete, ReportConfiguration.examine_eq]
  rfl

/-- With a log there is one line. -/
theorem isComplete_logged (b : ReportBuilder) (t : Trace) :
    ∃ e : LogEvent, e.Tells b.configuration.firstIncomplete? ∧
      b.isComplete true t = (.ok b.configuration.isComplete, ⟨t.context, t.events ++ [e]⟩) := by
  rw [isComplete, ReportConfiguration.examine_eq, ReportConfiguration.isComplete]
  cases b.configuration.firstIncomplete? with
  | none => exact ⟨_, ⟨rfl, rfl⟩, rfl⟩
  | some f => exact ⟨_, ⟨rfl, rfl⟩, rfl⟩

theorem isComplete_answers (b : ReportBuilder) (logFindings : Bool) (t : Trace) :
    Answers (b.isComplete logFindings) t (.ok b.configuration.isComplete) := by
  cases logFindings with
  | false => exact ⟨[], by rw [isComplete_silent, List.append_nil]⟩
  | true =>
    obtain ⟨e, _, h⟩ := b.isComplete_logged t
    exact ⟨[e], h⟩

/-! ## 2. Building -/

/-- What building answers, without the log: the first field that is not filled, or the report of
    the configuration. A configuration whose items are no collection has none. -/
def outcome (b : ReportBuilder) : Except Failure Report :=
  match b.configuration.firstIncomplete? with
  | some f => .error (.incomplete b.kind f)
  | none =>
    match b.configuration.period?, b.configuration.items with
    | some period, .collection items => b.assemble period items
    | _, _ => .error .noSuchAttribute

/-- An assembled report is logged. -/
theorem ofExcept_log_answers (report : Except Failure Report) (log : Traced Unit)
    (hlog : ∀ t, Answers log t (.ok ())) (t : Trace) :
    Answers (do
      let r ← Traced.ofExcept report
      log
      return r) t report := by
  have hreport := ofExcept_answers report t
  cases report with
  | error e => exact hreport.bind_error
  | ok r => exact hreport.bind fun t₁ => (hlog t₁).bind fun t₂ => pure_answers r t₂

/-- **Building answers the outcome**, whatever the log, and leaves the log context as it was. -/
theorem build_answers_outcome (b : ReportBuilder) (t : Trace) : Answers b.build t b.outcome := by
  have hfields : [("report_type", Value.text b.kind.title), ("reporter_id", b.configuration.reporterId)] =
      [(ContextField.reportType, Value.text b.kind.title),
       (ContextField.reporterId, b.configuration.reporterId)].map fun f => (f.1.name, f.2) := rfl
  rw [build, hfields]
  refine within_answers _ (fun t' => ?_) t
  refine (b.isComplete_answers true t').bind fun t₁ => ?_
  rw [outcome, ReportConfiguration.isComplete]
  cases b.configuration.firstIncomplete? with
  | some f => exact throw_answers _ t₁
  | none =>
    simp only [Option.isNone_none, if_true]
    cases b.configuration.period? with
    | none => exact throw_answers _ t₁
    | some period =>
      cases b.configuration.items with
      | collection items => exact ofExcept_log_answers _ _ (log_answers _ _ _ _ _) t₁
      | _ => exact throw_answers _ t₁

/-- **A complete report is built**: the answer is what is assembled from the configuration. -/
theorem build_answers {b : ReportBuilder} {p : ReportPeriod} {items : Collection}
    (hcomplete : b.configuration.firstIncomplete? = none)
    (hperiod : b.configuration.period? = some p)
    (hitems : b.configuration.items = .collection items) (t : Trace) :
    Answers b.build t (b.assemble p items) := by
  have houtcome := b.build_answers_outcome t
  simp only [outcome, hcomplete, hperiod, hitems] at houtcome
  exact houtcome

end ReportBuilder

end PeppolStatistics
