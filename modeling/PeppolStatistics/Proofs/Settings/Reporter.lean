import PeppolStatistics.Proofs.Item.Check
import PeppolStatistics.Proofs.Settings.Outcome
import PeppolStatistics.Proofs.Settings.Parts

/-!
# The identifier of the reporter

Settings need the identifier of a reporter. What is checked is the text of the value that stands in
the file, and every value has one, even a key that is left empty.

* `ReportingSettings.make_renamed`: the identifier is looked at on its own;
* `ReportingSettings.parse_reporterId`: settings come out only if an identifier is given, and it
  counts by its text alone; any other value with a text that is not blank would do;
* `ReportingSettings.null_reporterId_accepted`: so a key without content passes.
-/

namespace PeppolStatistics

namespace ReportingSettings

open SettingsCheck (required_eq_ok filledText_of_text)

variable {data : Value} {s : ReportingSettings} {top entries : List (Value × Value)}

/-! ## 1. Another identifier -/

/-- The settings with another reporter, whose identifier must not be blank. -/
def renamed (s : ReportingSettings) (id : String) : Except Failure ReportingSettings :=
  if h : Text.hasText id = true then .ok { s with reporterId := id, reporterId_hasText := h }
  else .error .blankReporterId

/-- The sections of a settings file with another value for the identifier of the reporter. -/
def withReporterId (v : Value) (top entries : List (Value × Value)) : Value :=
  .dict (Value.put (.text "reporter") (.dict (Value.put (.text "id") v entries)) top)

/-- **The identifier is looked at on its own**: from another one come the same settings otherwise. -/
theorem make_renamed {id url scheme level : Value} {tsr eusr : ReportOverrides}
    (h : make id url scheme level tsr eusr = .ok s) (t : String) :
    make (.text t) url scheme level tsr eusr = s.renamed t := by
  obtain ⟨_, _, h⟩ := bind_eq_ok.mp h
  obtain ⟨filledScheme, hscheme, h⟩ := bind_eq_ok.mp h
  obtain ⟨knownLevel, hlevel, h⟩ := bind_eq_ok.mp h
  obtain rfl := Except.ok.inj h
  rw [make, hscheme, hlevel, filledText_of_text rfl, renamed]
  by_cases ht : Text.hasText t = true
  · rw [dif_pos ht, dif_pos ht]
    rfl
  · rw [dif_neg ht, dif_neg ht]
    rfl

theorem reporterId_of_renamed {t : String} {s' : ReportingSettings} (h : s.renamed t = .ok s') :
    s'.reporterId = t := by
  rw [renamed] at h
  split at h
  · cases h
    rfl
  · cases h

/-- Sections are checked for the keys they have. -/
theorem checkKeys_congr {part part' : Value} (h : part.keyTexts? = part'.keyTexts?)
    (place : String) (known : List String) :
    checkKeys place part known = checkKeys place part' known := by
  rw [SettingsSection.checkKeys_eq, SettingsSection.checkKeys_eq, h]

theorem required_put (key : String) (v : Value) (entries : List (Value × Value)) :
    required (.dict (Value.put (.text key) v entries)) key = .ok v := by
  simp only [required, Value.lookup?_put, if_true]

theorem optional_put {key other : String} (h : other ≠ key) (v : Value)
    (entries : List (Value × Value)) :
    optional (.dict (Value.put (.text key) v entries)) other = optional (.dict entries) other := by
  simp only [optional, Value.lookup?_put, h, if_false]

theorem sectionOf_put {key other : String} (h : other ≠ key) (v : Value)
    (entries : List (Value × Value)) :
    sectionOf (.dict (Value.put (.text key) v entries)) other = sectionOf (.dict entries) other := by
  simp only [sectionOf, optional_put h]

/-- Of the parts that are read, the identifier alone depends on its entry. -/
theorem parse_put {p : SettingsParts} (h : p.ReadFrom (.dict top))
    (htop : Value.lookup? (.text "reporter") top = some (.dict entries))
    (hentries : p.reporter = .dict entries) (v : Value) :
    parse (withReporterId v top entries) =
      v.toText >>= fun t => SettingsParts.settings { p with idText := t } := by
  have hkeys : checkKeys "settings" (withReporterId v top entries)
      ["reporter", "storage", "logging", "reports"] = .ok () :=
    (checkKeys_congr (Value.keyTexts?_put htop _) _ _).trans h.keys
  have hreporter : required (withReporterId v top entries) "reporter" =
      .ok (.dict (Value.put (.text "id") v entries)) := required_put _ _ _
  have hstorage : sectionOf (withReporterId v top entries) "storage" = .ok p.storage :=
    (sectionOf_put (by decide) _ _).trans h.storage
  have hlogging : sectionOf (withReporterId v top entries) "logging" = .ok p.logging :=
    (sectionOf_put (by decide) _ _).trans h.logging
  have hreports : sectionOf (withReporterId v top entries) "reports" = .ok p.reports :=
    (sectionOf_put (by decide) _ _).trans h.reports
  have hscheme : optional (.dict (Value.put (.text "id") v entries)) "scheme" = .ok p.scheme :=
    (optional_put (by decide) _ _).trans (hentries ▸ h.scheme)
  simp only [parse, hkeys, hreporter, hstorage, hlogging, hreports, h.reportKeys, required_put,
    hscheme, h.url, h.level, h.levelText, h.tsrPart, h.tsr, h.eusrPart, h.eusr, ok_bind]
  rfl

/-! ## 2. The identifier in a file -/

/-- **The identifier of the reporter in settings that were read**, whatever the file holds. The
    section of the reporter is a dictionary with an identifier, whose text is the one in the
    settings and is not blank. Nothing but this text is looked at: with any other value in its place
    the same settings come out otherwise, or the identifier is refused because its text is blank or
    cannot be written. -/
theorem parse_reporterId (hparse : parse data = .ok s) :
    ∃ top entries id, data = .dict top ∧
      Value.lookup? (.text "reporter") top = some (.dict entries) ∧
      Value.lookup? (.text "id") entries = some id ∧
      id.toText = .ok s.reporterId ∧ NotBlank s.reporterId ∧
      ∀ v, parse (withReporterId v top entries) = v.toText >>= s.renamed := by
  obtain ⟨p, hread, hmake⟩ := SettingsParts.exists_readFrom hparse
  obtain ⟨top, rfl, htop⟩ := required_eq_ok hread.reporter
  obtain ⟨entries, hentries, hid⟩ := required_eq_ok hread.id
  rw [hentries] at htop
  refine ⟨top, entries, p.id, rfl, htop, hid, ?_, notBlank_iff.mpr s.reporterId_hasText,
    fun v => ?_⟩
  · have hsame := (make_renamed hmake p.idText).symm.trans hmake
    rw [reporterId_of_renamed hsame]
    exact hread.idText
  · rw [parse_put hread htop hentries v]
    exact congrArg (v.toText >>= ·) (funext (make_renamed hmake))

/-- A settings file that names the reporter and nothing else. -/
def reporterFile (id : Value) : Value := .ofFields [("reporter", .ofFields [("id", id)])]

theorem parse_reporterFile (id : Value) {t : String} (hid : id.toText = .ok t)
    (h : Text.hasText t = true) : ∃ s, parse (reporterFile id) = .ok s ∧ s.reporterId = t := by
  have hscheme : Text.hasText Identifier.serviceProviderScheme = true := by decide
  have hinfo : Level.ofSettings? "INFO" = some .info := by decide
  have hmade := make_texts h hscheme hinfo defaultDatabaseUrl {} {}
  refine ⟨_, Eq.trans ?_ hmade, rfl⟩
  rw [reporterFile, parse_reporter, SettingsSection.required_fields,
    SettingsSection.optional_fields]
  show (id.toText >>= fun id => _) = _
  rw [hid]
  rfl

/-- The identifier of a file that names its reporter by a number, and what would come of the file
    with nothing in its place. -/
theorem parse_reporterId_number :
    ∃ s, parse (reporterFile (.int 42)) = .ok s ∧ s.reporterId = "42" ∧
      ∃ top entries s', reporterFile (.int 42) = .dict top ∧
        Value.lookup? (.text "reporter") top = some (.dict entries) ∧
        parse (withReporterId .null top entries) = .ok s' ∧ s'.reporterId = "None" := by
  obtain ⟨s, hparse, hid⟩ := parse_reporterFile (.int 42) rfl (by decide)
  obtain ⟨top, entries, _, htop, hentries, _, _, _, hput⟩ := parse_reporterId hparse
  have hnone : Text.hasText "None" = true := by decide
  have hrenamed : s.renamed "None" =
      .ok { s with reporterId := "None", reporterId_hasText := hnone } := dif_pos hnone
  exact ⟨s, hparse, hid, top, entries, _, htop, hentries, (hput .null).trans hrenamed, rfl⟩

/-- **A key without content passes for an identifier**: the reporter is called "None". -/
theorem null_reporterId_accepted :
    (¬ ∀ (data : Value) (s : ReportingSettings), parse data = .ok s →
      ∃ top entries id, data = .dict top ∧
        Value.lookup? (.text "reporter") top = some (.dict entries) ∧
        Value.lookup? (.text "id") entries = some id ∧ id ≠ .null ∧
        id.toText = .ok s.reporterId ∧ NotBlank s.reporterId) ∧
    ∃ s, parse (reporterFile .null) = .ok s ∧ s.reporterId = "None" := by
  obtain ⟨s, hparse, hnone⟩ := parse_reporterFile .null rfl (by decide)
  refine ⟨fun h => ?_, s, hparse, hnone⟩
  obtain ⟨top, entries, id, htop, hentries, hid, hgiven, _, _⟩ := h _ _ hparse
  obtain rfl := Value.dict.inj htop
  have hreporter := hentries.symm.trans (Value.lookup?_fields _ _)
  obtain rfl := Value.dict.inj (Option.some.inj hreporter)
  exact hgiven (Option.some.inj (hid.symm.trans (Value.lookup?_fields _ _)))

end ReportingSettings

end PeppolStatistics
