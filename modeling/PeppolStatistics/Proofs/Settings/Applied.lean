import PeppolStatistics.Proofs.CommandLine.Report
import PeppolStatistics.Proofs.Report.Outcome
import PeppolStatistics.Proofs.Settings.Outcome
import PeppolStatistics.Proofs.Settings.Parts

/-!
# Reports with settings that were read

Settings replace the usual identifiers of a report. When they are read, nobody looks at the
replacements; the reporter, the month and the items are always filled. Whether a report is built is
therefore a question of the replacements alone.

* `ReportingSettings.overrides_of_parse`: the replacements are what stands in the section of a kind
  of report, whatever it is;
* `ReportingSettings.unfilled_configurationFor_iff`: a field is not filled exactly if its
  replacement cannot be used;
* `ReportingSettings.applied_ends`: how a report ends with settings that were read;
* `ReportingSettings.blank_replacement_accepted`: a replacement of blanks is accepted with the
  settings and fails the report.
-/

namespace PeppolStatistics

/-! ## 1. Replacements that cannot be used -/

theorem Value.not_blank_text {t : String} (h : Text.hasText t = true) : ¬ (Value.text t).Blank := by
  rw [Value.blank_iff, Bool.not_eq_false]
  exact h

namespace ReportOverrides

variable {o : ReportOverrides} {v : Value} {usual : String} {f : RequiredField}

/-- **A replacement cannot be used**: it counts as true, and it is no text or a text of blanks. -/
def Unusable (o : ReportOverrides) : RequiredField → Prop
  | .customizationId => o.customizationId.truthy = true ∧ o.customizationId.Blank
  | .profileId => o.profileId.truthy = true ∧ o.profileId.Blank
  | _ => False

/-- The first replacement that cannot be used, the customization before the profile. -/
def FirstUnusable (o : ReportOverrides) (f : RequiredField) : Prop :=
  o.Unusable f ∧ (f = .profileId → ¬ o.Unusable .customizationId)

theorem usable_iff : o.Usable ↔ ∀ f, ¬ o.Unusable f := by
  have hvalue (v : Value) : ¬ (v.truthy = true ∧ v.Blank) ↔ (v.truthy = true → v.hasText = true) := by
    rw [Value.blank_iff, not_and, Bool.not_eq_false]
  constructor
  · rintro ⟨hcustomization, hprofile⟩ f
    cases f with
    | customizationId => exact (hvalue _).mpr hcustomization
    | profileId => exact (hvalue _).mpr hprofile
    | _ => exact id
  · intro h
    exact ⟨(hvalue _).mp (h .customizationId), (hvalue _).mp (h .profileId)⟩

/-- An identifier is blank exactly if its replacement cannot be used. -/
theorem blank_replaced_iff (husual : Text.hasText usual = true) :
    (if v.truthy then v else .text usual).Blank ↔ v.truthy = true ∧ v.Blank := by
  by_cases hv : v.truthy = true
  · rw [if_pos hv, and_iff_right hv]
  · rw [if_neg hv]
    exact iff_of_false (Value.not_blank_text husual) fun h => hv h.1

end ReportOverrides

/-! ## 2. Replacements that were read -/

/-- The section of the replacements for a kind of report. -/
def SettingsSection.ofKind : ReportKind → SettingsSection
  | .tsr => .tsr
  | .eusr => .eusr

namespace ReportingSettings

open SettingsSection (subsection overridesIn ofKind)
open SettingsCheck (optional_eq_ok)

variable {data v part : Value} {s : ReportingSettings} {o : ReportOverrides}

theorem sectionOf_eq_ok {key : String} (h : sectionOf data key = .ok part) :
    part = subsection data key := by
  obtain ⟨v, hv, h⟩ := bind_eq_ok.mp h
  obtain ⟨_, _, rfl⟩ := optional_eq_ok hv
  exact (Except.ok.inj h).symm

theorem overridesOf_eq_ok {place : String} (h : overridesOf place v = .ok o) :
    o = overridesIn (orElse v (.dict [])) := by
  rw [overridesOf] at h
  rw [orElse]
  split at h
  · rename_i hv
    obtain ⟨_, _, h⟩ := bind_eq_ok.mp h
    obtain ⟨customizationId, hcustomization, h⟩ := bind_eq_ok.mp h
    obtain ⟨profileId, hprofile, h⟩ := bind_eq_ok.mp h
    obtain ⟨_, _, rfl⟩ := optional_eq_ok hcustomization
    obtain ⟨_, _, rfl⟩ := optional_eq_ok hprofile
    rw [if_pos hv]
    exact (Except.ok.inj h).symm
  · rename_i hv
    rw [if_neg hv]
    exact (Except.ok.inj h).symm

theorem make_eq_ok {id url scheme level : Value} {tsr eusr : ReportOverrides}
    (h : make id url scheme level tsr eusr = .ok s) : s.tsr = tsr ∧ s.eusr = eusr := by
  obtain ⟨_, _, h⟩ := bind_eq_ok.mp h
  obtain ⟨_, _, h⟩ := bind_eq_ok.mp h
  obtain ⟨_, _, h⟩ := bind_eq_ok.mp h
  cases h
  exact ⟨rfl, rfl⟩

/-- **The replacements that are read** are what stands in the section of the kind of report. -/
theorem overrides_of_parse (h : parse data = .ok s) (kind : ReportKind) :
    s.overrides kind = overridesIn ((ofKind kind).content data) := by
  obtain ⟨p, hread, hmake⟩ := SettingsParts.exists_readFrom h
  have hreports := sectionOf_eq_ok hread.reports
  obtain ⟨_, _, htsrPart⟩ := optional_eq_ok hread.tsrPart
  obtain ⟨_, _, heusrPart⟩ := optional_eq_ok hread.eusrPart
  have htsr := overridesOf_eq_ok hread.tsr
  have heusr := overridesOf_eq_ok hread.eusr
  rw [htsrPart, hreports] at htsr
  rw [heusrPart, hreports] at heusr
  obtain ⟨htsrMade, heusrMade⟩ := make_eq_ok hmake
  cases kind with
  | tsr => exact htsrMade.trans htsr
  | eusr => exact heusrMade.trans heusr

/-! ## 3. Builders with settings -/

/-- The default builder of a kind of report, with a month and a collection, to which settings with
    their replacements are applied. -/
def builderFor (s : ReportingSettings) (kind : ReportKind) (month : Value) (items : Collection) :
    Traced ReportBuilder := do
  let b ← (ReportBuilder.new kind).set .monthOf month
  let b ← b.set .items (.collection items)
  return { b with configuration := s.applyTo (some (s.overrides kind)) b.configuration }

/-- The program makes its reports with such a builder. -/
theorem buildReport_eq (c : ReportCommand) (s : ReportingSettings) (items : Collection) :
    c.buildReport s items = s.builderFor c.report (.date c.month) items >>= ReportBuilder.build := by
  rw [ReportCommand.buildReport, builderFor]
  simp only [bind_assoc, pure_bind]

/-- The configuration of this builder. -/
def configurationFor (s : ReportingSettings) (kind : ReportKind) (d : Date) (items : Collection) :
    ReportConfiguration :=
  s.applyTo (some (s.overrides kind))
    { (ReportConfiguration.default kind).withPeriod (some (.monthOf d)) with
      items := .collection items }

variable {kind : ReportKind} {month : Value} {d : Date} {items : Collection} {f : RequiredField}

open Traced in
theorem builderFor_answers (s : ReportingSettings) (kind : ReportKind) (hmonth : month.StandsFor d)
    (items : Collection) (t : Trace) :
    Answers (s.builderFor kind month items) t (.ok ⟨kind, [], s.configurationFor kind d items⟩) := by
  have hset := ReportConfiguration.set_monthOf_of_standsFor (.default kind) hmonth
  refine (ReportBuilder.set_answers hset t).bind fun t₁ => ?_
  refine (ReportBuilder.set_answers rfl t₁).bind fun t₂ => ?_
  exact pure_answers _ t₂

/-- **A field is not filled exactly if its replacement cannot be used.** -/
theorem unfilled_configurationFor_iff :
    (s.configurationFor kind d items).Unfilled f ↔ (s.overrides kind).Unusable f := by
  have hcustomization : Text.hasText kind.customization = true := by cases kind <;> decide
  have hdefault : (ReportConfiguration.default kind).customizationId = .text kind.customization := by
    cases kind <;> rfl
  rw [configurationFor, applyTo_eq]
  cases f with
  | customizationId =>
    have hblank := ReportOverrides.blank_replaced_iff (v := (s.overrides kind).customizationId)
      hcustomization
    rwa [← hdefault] at hblank
  | profileId => exact ReportOverrides.blank_replaced_iff (by decide)
  | startDate | endDate | items => exact iff_false_intro nofun
  | period =>
    refine iff_false_intro ?_
    rintro ⟨_, _, hfirst, hlast, hinverted⟩
    cases hfirst
    cases hlast
    exact (ReportPeriod.monthOf d).ordered hinverted
  | reporterIdScheme => exact iff_false_intro (Value.not_blank_text s.reporterIdScheme_hasText)
  | reporterId => exact iff_false_intro (Value.not_blank_text s.reporterId_hasText)

theorem items_configurationFor :
    (s.configurationFor kind d items).items = .collection items := by
  rw [configurationFor, applyTo_eq]

end ReportingSettings

/-! ## 4. How reports end -/

/-- If exactly the fields whose replacement cannot be used are not filled, the first of them is the
    field of the first such replacement. -/
theorem ReportConfiguration.firstUnfilled_iff {c : ReportConfiguration} {o : ReportOverrides}
    (h : ∀ f, c.Unfilled f ↔ o.Unusable f) (f : RequiredField) :
    c.FirstUnfilled f ↔ o.FirstUnusable f := by
  simp only [FirstUnfilled, h, ReportOverrides.FirstUnusable]
  refine and_congr_right fun hf => ?_
  cases f with
  | customizationId =>
    refine iff_of_true ⟨[], _, rfl, List.forall_mem_nil _⟩ fun hprofile => ?_
    cases hprofile
  | profileId =>
    constructor
    · intro hfirst _
      obtain ⟨before, after, hall, hbefore⟩ := hfirst
      cases before with
      | nil => cases hall
      | cons g before =>
        obtain rfl : .customizationId = g := (List.cons.inj hall).1
        exact hbefore _ List.mem_cons_self
    · intro hcustomization
      exact ⟨[.customizationId], _, rfl, List.forall_mem_singleton.mpr (hcustomization rfl)⟩
  | _ => exact hf.elim

namespace ReportBuilder

variable {b : ReportBuilder} {o : ReportOverrides} {items : Collection}

/-- **How a builder with settings ends**, told by the replacements alone. -/
structure EndsBy (b : ReportBuilder) (o : ReportOverrides) (t : Trace) : Prop where
  /-- The builder is complete exactly if both replacements can be used. -/
  complete_iff : ∀ logFindings, (b.isComplete logFindings t).1 = .ok true ↔ o.Usable
  /-- A report is returned exactly if both replacements can be used. -/
  returns_iff : (∃ r, (b.build t).1 = .ok r) ↔ o.Usable
  carries : ∀ r, (b.build t).1 = .ok r → r.kind = b.kind ∧ r.Carries b.configuration
  /-- There is one failure only: the field of the first replacement that cannot be used is not
      filled. -/
  fails_iff : ∀ e, (b.build t).1 = .error e ↔ ∃ f, o.FirstUnusable f ∧ e = .incomplete b.kind f

theorem endsBy_of_unfilled (hunfilled : ∀ f, b.configuration.Unfilled f ↔ o.Unusable f)
    (hitems : b.configuration.items = .collection items) (hdims : b.dimensions = []) (t : Trace) :
    b.EndsBy o t := by
  have hbuild : (b.build t).1 = b.outcome := (b.build_answers_outcome t).fst
  have hnone : b.configuration.firstIncomplete? = none ↔ o.Usable := by
    rw [ReportConfiguration.firstIncomplete?_eq_none, ReportOverrides.usable_iff]
    exact forall_congr' fun f => not_congr (hunfilled f)
  have hsome (f : RequiredField) :
      b.configuration.firstIncomplete? = some f ↔ o.FirstUnusable f := by
    rw [ReportConfiguration.firstIncomplete?_eq_some_iff]
    exact ReportConfiguration.firstUnfilled_iff hunfilled f
  have hcases := outcome_cases (b := b) (.inr ⟨items, hitems⟩) fun _ => ⟨[], by rw [hdims]; rfl⟩
  constructor
  case complete_iff =>
    intro logFindings
    rw [(b.isComplete_answers logFindings t).fst, ← hnone, Except.ok.injEq,
      ReportConfiguration.isComplete, Option.isNone_iff_eq_none]
  all_goals
    simp only [hbuild, ← hnone, ← hsome]
    obtain ⟨hfirst, r, hr, hcarries⟩ | ⟨f, hfirst, he⟩ := hcases
    · simp [hfirst, hr, hcarries]
    · simp [hfirst, he, eq_comm]

end ReportBuilder

namespace ReportingSettings

variable {data month : Value} {s : ReportingSettings} {d : Date}

open SettingsSection (overridesIn ofKind)

theorem endsBy_configurationFor (s : ReportingSettings) (kind : ReportKind) (d : Date)
    (items : Collection) (t : Trace) :
    ReportBuilder.EndsBy ⟨kind, [], s.configurationFor kind d items⟩ (s.overrides kind) t :=
  ReportBuilder.endsBy_of_unfilled (fun _ => unfilled_configurationFor_iff) items_configurationFor
    rfl t

/-- **How a report ends with settings that were read**, for both kinds of report, every month, every
    collection and every log: the default builder takes the month, the collection and the settings;
    it is complete, and a report is built, exactly if the replacements that stand in the file can be
    used. Otherwise the failure names the field of the first one that cannot. -/
theorem applied_ends (hparse : parse data = .ok s) (kind : ReportKind) (hmonth : month.StandsFor d)
    (items : Collection) (t : Trace) :
    ∃ b t', s.builderFor kind month items t = (.ok b, t') ∧
      b.kind = kind ∧ b.configuration = s.configurationFor kind d items ∧
      ∀ t'', b.EndsBy (overridesIn ((ofKind kind).content data)) t'' := by
  obtain ⟨events, hbuilder⟩ := builderFor_answers s kind hmonth items t
  refine ⟨_, _, hbuilder, rfl, rfl, fun t'' => ?_⟩
  rw [← overrides_of_parse hparse kind]
  exact endsBy_configurationFor s kind d items t''

/-- A settings file that replaces the customization of the transaction statistics. -/
def fileWith (customization : Value) : Value :=
  .ofFields
    [("reporter", .ofFields [("id", .text "POP000001")]),
     ("reports", .ofFields [("tsr", .ofFields [("customization_id", customization)])])]

/-- The settings in this file. -/
def settingsWith (customization : Value) : ReportingSettings where
  reporterId := "POP000001"
  databaseUrl := defaultDatabaseUrl
  reporterIdScheme := Identifier.serviceProviderScheme
  logLevel := "INFO"
  level := .info
  tsr := { customizationId := customization }
  eusr := {}
  reporterId_hasText := by decide
  reporterIdScheme_hasText := by decide
  level_eq := by decide

open SettingsSection in
/-- **Nobody looks at a replacement** when the settings are read. -/
theorem parse_fileWith (customization : Value) :
    parse (fileWith customization) = .ok (settingsWith customization) := by
  have hread : parse (fileWith customization) =
      make (.text "POP000001") defaultDatabaseUrl defaultScheme defaultLogLevel
        { customizationId := customization } {} := by
    simp [fileWith, parse, checkKeys_fields, required_fields, optional_fields, sectionOf_fields,
      subsection_fields, orElse, overridesOf, levelValue_null, Value.truthy_null,
      Value.truthy_fields, ← Value.ofFields_nil, Value.toText_text]
  rw [hread]
  exact make_texts (by decide) (by decide) (by decide) _ _ _

/-- A customization that is a text goes into the report of June. -/
theorem applied_ends_customized :
    parse (fileWith (.text "urn:example")) = .ok (settingsWith (.text "urn:example")) ∧
      Value.StandsFor (.date juneCommand.month) juneCommand.month ∧
      ∃ b t' r, (settingsWith (.text "urn:example")).builderFor .tsr (.date juneCommand.month) ⟨[]⟩
          ⟨.empty, []⟩ = (.ok b, t') ∧
        (b.build t').1 = .ok r ∧ r.kind = .tsr ∧ r.customizationId = "urn:example" := by
  have hparse := parse_fileWith (.text "urn:example")
  have hmonth : Value.StandsFor (.date juneCommand.month) juneCommand.month := .date _
  refine ⟨hparse, hmonth, ?_⟩
  obtain ⟨b, t', hb, hkind, hconfiguration, hends⟩ :=
    applied_ends hparse .tsr hmonth ⟨[]⟩ ⟨.empty, []⟩
  rw [← overrides_of_parse hparse] at hends
  have husable : ReportOverrides.Usable { customizationId := .text "urn:example" } :=
    ⟨fun _ => by decide, nofun⟩
  obtain ⟨r, hr⟩ := (hends t').returns_iff.mpr husable
  obtain ⟨hrkind, hcarries⟩ := (hends t').carries r hr
  have hcustomization := hcarries.customizationId
  rw [hconfiguration] at hcustomization
  exact ⟨b, t', r, hb, hr, hrkind.trans hkind, (Option.some.inj hcustomization).symm⟩

/-- **A replacement of blanks** is accepted with the settings, and no report can be built with it. -/
theorem blank_replacement_accepted :
    (¬ ∀ (data : Value) (s : ReportingSettings), parse data = .ok s →
      ∀ (kind : ReportKind) (month : Value) (d : Date), month.StandsFor d →
        ∀ (items : Collection) (t : Trace), ∃ b t' r,
          s.builderFor kind month items t = (.ok b, t') ∧ (b.build t').1 = .ok r) ∧
    parse (fileWith (.text " ")) = .ok (settingsWith (.text " ")) ∧
    ∀ (d : Date) (items : Collection) (t : Trace), ∃ b t',
      (settingsWith (.text " ")).builderFor .tsr (.date d) items t = (.ok b, t') ∧
        (b.build t').1 = .error (.incomplete .tsr .customizationId) := by
  have hparse := parse_fileWith (.text " ")
  have hfirst : ReportOverrides.FirstUnusable { customizationId := .text " " } .customizationId :=
    ⟨⟨by decide, Value.blank_iff.mpr (by decide)⟩, nofun⟩
  have hfails (d : Date) (items : Collection) (t : Trace) : ∃ b t',
      (settingsWith (.text " ")).builderFor .tsr (.date d) items t = (.ok b, t') ∧
        (b.build t').1 = .error (.incomplete .tsr .customizationId) := by
    obtain ⟨events, hb⟩ := builderFor_answers (settingsWith (.text " ")) .tsr (.date d) items t
    have hends := endsBy_configurationFor (settingsWith (.text " ")) .tsr d items
      ⟨t.context, t.events ++ events⟩
    exact ⟨_, _, hb, (hends.fails_iff _).mpr ⟨_, hfirst, rfl⟩⟩
  refine ⟨fun h => ?_, hparse, hfails⟩
  obtain ⟨b, t', hb, herror⟩ := hfails juneCommand.month ⟨[]⟩ ⟨.empty, []⟩
  obtain ⟨_, _, r, hb', hr⟩ := h _ _ hparse .tsr _ _ (.date juneCommand.month) ⟨[]⟩ ⟨.empty, []⟩
  cases hb.symm.trans hb'
  cases herror.symm.trans hr

end ReportingSettings

end PeppolStatistics
