import PeppolStatistics.Proofs.Report.Agreement

/-!
# How building ends

A builder either returns a report, which carries the data of its configuration, or it fails and
names the first field that is not filled.

* `Report.Carries`: what a report carries of a configuration;
* `ReportBuilder.Ends`: all that can be said of the end: which of the two it is, that the log
  context is as it was, that building again ends in the same way, and what whoever listens to the
  check hears;
* `ReportBuilder.build_ends`: a builder ends like this, in any log context.
-/

namespace PeppolStatistics

/-! ## 1. What a report carries -/

namespace Report

/-- The kind of a report. -/
def kind : Report → ReportKind
  | .tsr _ => .tsr
  | .eusr _ => .eusr

/-- The customization of a report. -/
def customizationId : Report → String
  | .tsr r => r.customizationId
  | .eusr r => r.customizationId

/-- The profile of a report. -/
def profileId : Report → String
  | .tsr r => r.profileId
  | .eusr r => r.profileId

/-- The header of a report. -/
def header : Report → ReportHeader
  | .tsr r => r.header
  | .eusr r => r.header

/-- **A report carries the data of a configuration**: its texts, and its dates as the period. -/
structure Carries (r : Report) (c : ReportConfiguration) : Prop where
  customizationId : c.customizationId.asText? = some r.customizationId
  profileId : c.profileId.asText? = some r.profileId
  startDate : c.startDate = some r.header.period.first
  endDate : c.endDate = some r.header.period.last
  reporterIdScheme : c.reporterIdScheme.asText? = some r.header.reporterIdScheme
  reporterId : c.reporterId.asText? = some r.header.reporterId

end Report

namespace ReportBuilder

theorem asText?_of_hasText {v : Value} (h : v.hasText = true) : v.asText? = some (textOf v) := by
  rw [Value.hasText] at h
  rw [textOf]
  cases hv : v.asText? with
  | none =>
    rw [hv] at h
    cases h
  | some s => rfl

/-- The report that is assembled from a complete configuration carries its data. -/
theorem carries_assemble {b : ReportBuilder} {p : ReportPeriod} {items : Collection} {r : Report}
    (hfilled : b.configuration.Filled) (hperiod : b.configuration.period? = some p)
    (h : b.assemble p items = .ok r) : r.kind = b.kind ∧ r.Carries b.configuration := by
  obtain ⟨hstart, hend⟩ := ReportConfiguration.period?_eq_some_iff.mp hperiod
  have hcustomization := asText?_of_hasText hfilled.customizationId
  have hprofile := asText?_of_hasText hfilled.profileId
  have hscheme := asText?_of_hasText hfilled.reporterIdScheme
  have hreporter := asText?_of_hasText hfilled.reporterId
  rw [assemble] at h
  cases hkind : b.kind with
  | tsr =>
    rw [hkind] at h
    obtain ⟨dims, _, h⟩ := bind_eq_ok.mp h
    cases h
    exact ⟨rfl, hcustomization, hprofile, hstart, hend, hscheme, hreporter⟩
  | eusr =>
    rw [hkind] at h
    cases h
    exact ⟨rfl, hcustomization, hprofile, hstart, hend, hscheme, hreporter⟩

/-- Known dimensions are enough to assemble a report. -/
theorem exists_assemble {b : ReportBuilder}
    (hdims : b.kind = .tsr → ∃ dims, Dimension.ofValues b.dimensions = .ok dims)
    (p : ReportPeriod) (items : Collection) : ∃ r, b.assemble p items = .ok r := by
  rw [assemble]
  cases hkind : b.kind with
  | tsr =>
    obtain ⟨dims, hd⟩ := hdims hkind
    rw [hd]
    exact ⟨_, rfl⟩
  | eusr => exact ⟨_, rfl⟩

/-- **The outcome of a builder**: a report that carries the configuration if nothing is missing,
    and otherwise the failure that names the first field that is not filled. -/
theorem outcome_cases {b : ReportBuilder}
    (hitems : b.configuration.items = .null ∨ ∃ items, b.configuration.items = .collection items)
    (hdims : b.kind = .tsr → ∃ dims, Dimension.ofValues b.dimensions = .ok dims) :
    (b.configuration.firstIncomplete? = none ∧
      ∃ r : Report, b.outcome = .ok r ∧ r.kind = b.kind ∧ r.Carries b.configuration) ∨
    ∃ f, b.configuration.firstIncomplete? = some f ∧ b.outcome = .error (.incomplete b.kind f) := by
  cases hfirst : b.configuration.firstIncomplete? with
  | some f => exact Or.inr ⟨f, rfl, by rw [outcome, hfirst]⟩
  | none =>
    have hfilled := ReportConfiguration.firstIncomplete?_eq_none_iff.mp hfirst
    obtain ⟨p, hperiod⟩ := hfilled.period
    obtain hnull | ⟨items, hcollection⟩ := hitems
    · have hsome := hfilled.items
      rw [hnull] at hsome
      cases hsome
    · obtain ⟨r, hr⟩ := exists_assemble hdims p items
      refine Or.inl ⟨rfl, r, ?_, carries_assemble hfilled hperiod hr⟩
      simp only [outcome, hfirst, hperiod, hcollection]
      exact hr

/-! ## 2. How building ends -/

/-- **How building ends**, and what is heard of the check. -/
structure Ends (b : ReportBuilder) (t : Trace) : Prop where
  /-- A report is returned exactly if no field is found that is not filled. -/
  returns_iff : (∃ r, (b.build t).1 = .ok r) ↔ b.configuration.firstIncomplete? = none
  /-- The field that is found is the first that is not filled. -/
  first_iff : ∀ f, b.configuration.firstIncomplete? = some f ↔ b.configuration.FirstUnfilled f
  carries : ∀ r, (b.build t).1 = .ok r → r.kind = b.kind ∧ r.Carries b.configuration
  names : ∀ e, (b.build t).1 = .error e →
    ∃ f, b.configuration.FirstUnfilled f ∧ e = .incomplete b.kind f
  context : (b.build t).2.context = t.context
  /-- Building again, after this or in any other trace, ends in the same way. -/
  again : ∀ t', (b.build t').1 = (b.build t).1
  isComplete : ∀ logFindings,
    (b.isComplete logFindings t).1 = .ok (decide (b.configuration.firstIncomplete? = none))
  /-- Without a log, nothing is heard of the check. -/
  silent : (b.isComplete false t).2 = t
  /-- With a log, one line is heard of it. -/
  logged : ∃ e : LogEvent, e.Tells b.configuration.firstIncomplete? ∧
    (b.isComplete true t).2 = ⟨t.context, t.events ++ [e]⟩
  /-- Whoever listens hears one finding, and the answer is the same. -/
  heard : b.configuration.examine true =
    (b.configuration.firstIncomplete?, [Finding.about b.configuration.firstIncomplete?])
  unheard : b.configuration.examine false = (b.configuration.firstIncomplete?, [])

/-- **How building ends**, for every builder whose items are a collection or nothing, and whose
    dimensions are known if its report is grouped by dimensions, in any log context. -/
theorem build_ends (b : ReportBuilder)
    (hitems : b.configuration.items = .null ∨ ∃ items, b.configuration.items = .collection items)
    (hdims : b.kind = .tsr → ∃ dims, Dimension.ofValues b.dimensions = .ok dims) (t : Trace) :
    b.Ends t := by
  have hbuild (t' : Trace) : (b.build t').1 = b.outcome := (b.build_answers_outcome t').fst
  have hcomplete : b.configuration.isComplete =
      decide (b.configuration.firstIncomplete? = none) := by
    rw [ReportConfiguration.isComplete]
    cases b.configuration.firstIncomplete? <;> simp
  obtain ⟨e, htells, hlogged⟩ := b.isComplete_logged t
  constructor
  case first_iff => exact fun f => ReportConfiguration.firstIncomplete?_eq_some_iff
  case context =>
    obtain ⟨events, h⟩ := b.build_answers_outcome t
    rw [h]
  case again => exact fun t' => (hbuild t').trans (hbuild t).symm
  case isComplete => exact fun logFindings => hcomplete ▸ (b.isComplete_answers logFindings t).fst
  case silent => rw [isComplete_silent]
  case logged => exact ⟨e, htells, by rw [hlogged]⟩
  case heard => exact b.configuration.examine_eq true
  case unheard => exact b.configuration.examine_eq false
  -- what is left are the two kinds of outcome
  all_goals
    rw [hbuild]
    obtain ⟨hfirst, r, hr, hcarries⟩ | ⟨f, hfirst, he⟩ := outcome_cases hitems hdims
  case returns_iff.inl => exact ⟨fun _ => hfirst, fun _ => ⟨r, hr⟩⟩
  case returns_iff.inr => simp [hfirst, he]
  case carries.inl =>
    intro r' hr'
    rw [hr] at hr'
    cases hr'
    exact hcarries
  case carries.inr => simp [he]
  case names.inl => simp [hr]
  case names.inr =>
    intro e' he'
    rw [he] at he'
    cases he'
    exact ⟨f, ReportConfiguration.firstIncomplete?_eq_some_iff.mp hfirst, rfl⟩

/-- The configuration of June with an end in May and without reporter: the dates out of order are
    named, since they are looked at first. -/
theorem build_ends_inverted :
    let inverted : ReportConfiguration :=
      { juneConfiguration with endDate := Date.ofParts? 2023 5 31, reporterId := .null }
    (inverted.items = .null ∨ ∃ items, inverted.items = .collection items) ∧
    (ReportKind.tsr = .tsr → ∃ dims, Dimension.ofValues [.text "direction"] = .ok dims) ∧
    (build ⟨.tsr, [.text "direction"], inverted⟩ ⟨.empty, []⟩).1 =
      .error (.incomplete .tsr .period) := by
  intro inverted
  have hitems : inverted.items = .null ∨ ∃ items, inverted.items = .collection items :=
    Or.inr ⟨_, rfl⟩
  have hdims : ReportKind.tsr = .tsr → ∃ dims, Dimension.ofValues [.text "direction"] = .ok dims :=
    fun _ => ⟨[.direction], rfl⟩
  refine ⟨hitems, hdims, ?_⟩
  have hends := build_ends ⟨.tsr, [.text "direction"], inverted⟩ hitems hdims ⟨.empty, []⟩
  have hfirst : inverted.firstIncomplete? = some .period := by decide
  cases hbuild : (build ⟨.tsr, [.text "direction"], inverted⟩ ⟨.empty, []⟩).1 with
  | ok r =>
    have hnone := hends.returns_iff.mp ⟨r, hbuild⟩
    rw [hfirst] at hnone
    cases hnone
  | error e =>
    obtain ⟨f, hf, rfl⟩ := hends.names e hbuild
    rw [← hends.first_iff, hfirst] at hf
    cases hf
    rfl

end ReportBuilder

end PeppolStatistics
