import PeppolStatistics.Proofs.Settings.Keys

/-!
# How reading settings ends

Settings are read through a row of checks (`SettingsCheck.inOrder`). A check passes, or it refuses
what it finds, or it is stuck because a value is of a wrong kind. `Refused` and `Mistyped` say of
each check when it does so, whatever the others do.

* `Decides`: the first check of a row that does not pass decides how work ends; `Decides.bind` puts
  two rows one after the other;
* `parse_decided`: the row of all checks decides how settings are read, from a value of any kind;
* `ReportingSettings.parse_ends`: the three ends, told by the checks alone. Only a value of a wrong
  kind lets a failure out that does not say what is wrong with the settings
  (`parse_empty_reporter`).
-/

namespace PeppolStatistics

/-! ## 1. Failures -/

namespace Failure

/-- A failure that says what is wrong with the settings: a key is missing, or a value is not one of
    those that are allowed. -/
def IsRefusal (e : Failure) : Prop := e.kind = .key ∨ e.kind = .value

/-- A failure because a value is of a wrong kind. -/
def IsMistyping (e : Failure) : Prop := e.kind = .type ∨ e.kind = .attribute

variable {e : Failure}

theorem IsMistyping.not_isRefusal (h : e.IsMistyping) : ¬ e.IsRefusal := by
  rcases h with h | h <;> simp [IsRefusal, h]

theorem IsRefusal.not_isMistyping (h : e.IsRefusal) : ¬ e.IsMistyping :=
  fun hmistyping => hmistyping.not_isRefusal h

end Failure

/-! ## 2. Checks -/

/-- What stands in a file as a section. The section of the reporter is taken as it is; what counts
    as false is an empty one elsewhere. -/
def SettingsSection.part (s : SettingsSection) (data : Value) : Value :=
  match s with
  | .reporter => valueAt data "reporter"
  | s => s.content data

/-- The value of a key in a section; a key that is missing counts as nothing. -/
def SettingsSection.entry (s : SettingsSection) (data : Value) (key : String) : Value :=
  valueAt (s.part data) key

/-- What is checked when settings are read. -/
inductive SettingsCheck where
  /-- The keys of a section are known. -/
  | keys (s : SettingsSection)
  /-- A section is a dictionary. -/
  | mapping (s : SettingsSection)
  /-- A key of a section is there. -/
  | given (s : SettingsSection) (key : String)
  /-- The identifier of the reporter can be written. -/
  | writtenId
  /-- The level of the log can be written, if there is one. -/
  | writtenLevel
  /-- The identifier of the reporter is not blank. -/
  | filledId
  /-- The scheme of the reporter is a text that is not blank, if there is one. -/
  | filledScheme
  /-- The level of the log is known, if there is one. -/
  | knownLevel
deriving DecidableEq, Repr

namespace SettingsCheck

/-- All checks, in the order in which they are made. -/
def inOrder : List SettingsCheck :=
  [.keys .settings, .mapping .settings, .given .settings "reporter", .keys .reports,
   .mapping .reporter, .given .reporter "id", .writtenId, .mapping .storage, .mapping .logging,
   .writtenLevel, .mapping .reports, .keys .tsr, .mapping .tsr, .keys .eusr, .mapping .eusr,
   .filledId, .filledScheme, .knownLevel]

/-- **A check refuses what it finds**: an unknown key, a missing one, a number that is too long to
    be written, a blank text, an unknown level. -/
def Refused (data : Value) : SettingsCheck → Prop
  | .keys s => ∃ names, (s.part data).keyTexts? = some names ∧ ∃ n ∈ names, n ∉ s.keys
  | .mapping _ => False
  | .given s key => ∃ entries, s.part data = .dict entries ∧
      Value.lookup? (.text key) entries = none
  | .writtenId => (SettingsSection.reporter.entry data "id").ShowsLong
  | .writtenLevel => (SettingsSection.logging.entry data "level").truthy = true ∧
      (SettingsSection.logging.entry data "level").ShowsLong
  | .filledId => ∃ id, (SettingsSection.reporter.entry data "id").toText = .ok id ∧
      Text.hasText id = false
  | .filledScheme => (SettingsSection.reporter.entry data "scheme").truthy = true ∧
      ∃ scheme, (SettingsSection.reporter.entry data "scheme").asText? = some scheme ∧
        Text.hasText scheme = false
  | .knownLevel => (SettingsSection.logging.entry data "level").truthy = true ∧
      ∃ level, (SettingsSection.logging.entry data "level").toText = .ok level ∧
        Level.ofSettings? level = none

/-- **A check is stuck**: a section does not run through texts or is no dictionary, or the scheme is
    no text. -/
def Mistyped (data : Value) : SettingsCheck → Prop
  | .keys s => (s.part data).keyTexts? = none
  | .mapping s => ∀ entries, s.part data ≠ .dict entries
  | .filledScheme => (SettingsSection.reporter.entry data "scheme").truthy = true ∧
      (SettingsSection.reporter.entry data "scheme").asText? = none
  | .given _ _ | .writtenId | .writtenLevel | .filledId | .knownLevel => False

/-- A check passes. -/
def Passes (data : Value) (c : SettingsCheck) : Prop := ¬ c.Refused data ∧ ¬ c.Mistyped data

variable {data : Value} {c : SettingsCheck}

/-- No check is stuck on what it refuses. -/
theorem Refused.not_mistyped (h : c.Refused data) : ¬ c.Mistyped data := by
  cases c with
  | keys s =>
    obtain ⟨names, hnames, _⟩ := h
    simp [Mistyped, hnames]
  | filledScheme =>
    obtain ⟨_, scheme, hscheme, _⟩ := h
    simp [Mistyped, hscheme]
  | mapping s => exact h.elim
  | given | writtenId | writtenLevel | filledId | knownLevel => exact id

theorem Mistyped.not_refused (h : c.Mistyped data) : ¬ c.Refused data :=
  fun hrefused => hrefused.not_mistyped h

theorem Mistyped.not_passes (h : c.Mistyped data) : ¬ c.Passes data := fun hpasses => hpasses.2 h

theorem not_passes_iff : ¬ c.Passes data ↔ c.Refused data ∨ c.Mistyped data := by
  rw [Passes, not_and_or, not_not, not_not]

end SettingsCheck

/-! ## 3. Rows of checks -/

open SettingsCheck

/-- **A row of checks decides how work ends**: with a result if all of them pass, and otherwise with
    a failure of the kind of the first one that does not. -/
inductive Decides (data : Value) (checks : List SettingsCheck) {α : Type} :
    Except Failure α → Prop where
  | passes {a : α} (h : ∀ c ∈ checks, c.Passes data) : Decides data checks (.ok a)
  | refuses {c : SettingsCheck} {e : Failure} (hfirst : StopsAt (Passes data) checks c)
      (hc : c.Refused data) (he : e.IsRefusal) : Decides data checks (.error e)
  | stuck {c : SettingsCheck} {e : Failure} (hfirst : StopsAt (Passes data) checks c)
      (hc : c.Mistyped data) (he : e.IsMistyping) : Decides data checks (.error e)

namespace Decides

variable {data : Value} {α β : Type} {checks more : List SettingsCheck} {c : SettingsCheck}
  {r : Except Failure α} {next : α → Except Failure β} {e : Failure}

/-- A row of one check. -/
theorem single (hpasses : c.Passes data → ∃ a, r = .ok a)
    (hrefused : c.Refused data → ∃ e, r = .error e ∧ e.IsRefusal)
    (hmistyped : c.Mistyped data → ∃ e, r = .error e ∧ e.IsMistyping) : Decides data [c] r := by
  by_cases hc : c.Passes data
  · obtain ⟨a, rfl⟩ := hpasses hc
    exact .passes (List.forall_mem_singleton.mpr hc)
  · rcases not_passes_iff.mp hc with h | h
    · obtain ⟨e, rfl, he⟩ := hrefused h
      exact .refuses (stopsAt_cons hc) h he
    · obtain ⟨e, rfl, he⟩ := hmistyped h
      exact .stuck (stopsAt_cons hc) h he

/-- A check on a number that may be too long to be written. -/
theorem of_stopsIf {p : Prop} (h : StopsIf p r) (hrefused : c.Refused data ↔ p)
    (hmistyped : ¬ c.Mistyped data) : Decides data [c] r := by
  cases h with
  | done h => exact .passes (List.forall_mem_singleton.mpr ⟨mt hrefused.mp h, hmistyped⟩)
  | stopped h =>
    exact .refuses (stopsAt_cons fun hpasses => hpasses.1 (hrefused.mpr h)) (hrefused.mpr h)
      (.inr rfl)

/-- **One row after the other**, where the work that the second row decides may build on what the
    first one lets through. -/
theorem bind (h : Decides data checks r) (hnext : ∀ a, r = .ok a → Decides data more (next a)) :
    Decides data (checks ++ more) (r >>= next) := by
  cases h with
  | @passes a hpass =>
    rw [ok_bind]
    have hrest := hnext a rfl
    generalize next a = rest at hrest ⊢
    cases hrest with
    | passes hmore => exact .passes (List.forall_mem_append.mpr ⟨hpass, hmore⟩)
    | refuses hfirst hc he => exact .refuses (hfirst.of_append hpass) hc he
    | stuck hfirst hc he => exact .stuck (hfirst.of_append hpass) hc he
  | refuses hfirst hc he => exact .refuses (hfirst.append more) hc he
  | stuck hfirst hc he => exact .stuck (hfirst.append more) hc he

/-- A result comes out exactly if all checks pass. -/
theorem ok_iff (h : Decides data checks r) :
    (∃ a, r = .ok a) ↔ ∀ c ∈ checks, c.Passes data := by
  cases h with
  | @passes a hpass => exact iff_of_true ⟨a, rfl⟩ hpass
  | refuses hfirst | stuck hfirst =>
    refine iff_of_false ?_ fun hpass => not_stopsAt hpass hfirst
    rintro ⟨a, h⟩
    cases h

/-- A failure says what is wrong exactly if the first check that does not pass refuses something. -/
theorem refuses_iff (h : Decides data checks r) :
    (∃ e, r = .error e ∧ e.IsRefusal) ↔ ∃ c, StopsAt (Passes data) checks c ∧ c.Refused data := by
  cases h with
  | passes hpass => simp [not_stopsAt hpass]
  | refuses hfirst hc he => simp [hfirst.exists_iff, hc, he]
  | stuck hfirst hc he => simp [hfirst.exists_iff, hc.not_refused, he.not_isRefusal]

/-- A failure is about types exactly if the first check that does not pass is stuck. -/
theorem mistypes_iff (h : Decides data checks r) :
    (∃ e, r = .error e ∧ e.IsMistyping) ↔ ∃ c, StopsAt (Passes data) checks c ∧ c.Mistyped data := by
  cases h with
  | passes hpass => simp [not_stopsAt hpass]
  | refuses hfirst hc he => simp [hfirst.exists_iff, hc.not_mistyped, he.not_isMistyping]
  | stuck hfirst hc he => simp [hfirst.exists_iff, hc, he]

/-- There is no other end. -/
theorem ends (h : Decides data checks r) :
    ((∃ a, r = .ok a) ∨ ∃ e, r = .error e ∧ e.IsRefusal) ↔ ¬ ∃ e, r = .error e ∧ e.IsMistyping := by
  cases h with
  | passes _ => simp
  | refuses _ _ he => simp [he, he.not_isMistyping]
  | stuck _ _ he => simp [he, he.not_isRefusal]

end Decides

/-! ## 4. The checks one by one -/

namespace SettingsCheck

open SettingsSection (valueAt subsection)
open ReportingSettings (checkKeys required optional sectionOf overridesOf filledText levelValue
  levelOf orElse)

variable {data part v : Value} {s : SettingsSection} {key : String} {entries : List (Value × Value)}

theorem decides_keys (data : Value) (s : SettingsSection) :
    Decides data [.keys s] (checkKeys s.place (s.part data) s.keys) := by
  rw [SettingsSection.checkKeys_eq]
  have hunknown (names : List String) :
      (names.filter fun n => !s.keys.contains n).isEmpty = true ↔ ∀ n ∈ names, n ∈ s.keys := by
    simp [List.filter_eq_nil_iff]
  refine .single (fun ⟨hrefused, htexts⟩ => ?_) (fun ⟨names, hnames, n, hn, hother⟩ => ?_)
    fun htexts => ?_
  · obtain ⟨names, hnames⟩ := Option.ne_none_iff_exists'.mp htexts
    have hknown : ∀ n ∈ names, n ∈ s.keys := by
      intro n hn
      by_contra hother
      exact hrefused ⟨names, hnames, n, hn, hother⟩
    rw [hnames]
    exact ⟨(), if_pos ((hunknown names).mpr hknown)⟩
  · rw [hnames]
    exact ⟨_, if_neg fun hknown => hother ((hunknown names).mp hknown n hn), .inr rfl⟩
  · rw [show (s.part data).keyTexts? = none from htexts]
    exact ⟨_, rfl, .inl rfl⟩

theorem optional_eq_ok (h : optional part key = .ok v) :
    ∃ entries, part = .dict entries ∧ v = valueAt part key := by
  cases part with
  | dict entries => exact ⟨entries, rfl, (Except.ok.inj h).symm⟩
  | _ => cases h

theorem optional_of_dict (h : part = .dict entries) (key : String) :
    optional part key = .ok (valueAt part key) := by
  rw [h]
  rfl

theorem required_eq_ok (h : required part key = .ok v) :
    ∃ entries, part = .dict entries ∧ Value.lookup? (.text key) entries = some v := by
  cases part with
  | dict entries =>
    refine ⟨entries, rfl, ?_⟩
    rw [required] at h
    split at h
    · rename_i w hlookup
      exact hlookup.trans (congrArg some (Except.ok.inj h))
    · cases h
  | _ => cases h

/-- A value that is no dictionary has neither keys nor values. -/
theorem not_dict (h : ∀ entries, part ≠ .dict entries) (key : String) :
    optional part key = .error .noSuchAttribute ∧ required part key = .error .wrongType := by
  cases part with
  | dict entries => exact absurd rfl (h entries)
  | _ => exact ⟨rfl, rfl⟩

theorem decides_optional (data : Value) (s : SettingsSection) (key : String) :
    Decides data [.mapping s] (optional (s.part data) key) := by
  refine .single (fun ⟨_, hmapping⟩ => ?_) False.elim fun hother => ?_
  · simp only [Mistyped, not_forall, not_not] at hmapping
    obtain ⟨entries, hentries⟩ := hmapping
    rw [hentries]
    exact ⟨_, rfl⟩
  · exact ⟨_, (not_dict hother key).1, .inr rfl⟩

theorem decides_required (data : Value) (s : SettingsSection) (key : String) :
    Decides data [.mapping s, .given s key] (required (s.part data) key) := by
  by_cases hmapping : ∃ entries, s.part data = .dict entries
  · obtain ⟨entries, hentries⟩ := hmapping
    have hpass : (mapping s).Passes data := ⟨id, fun hother => hother entries hentries⟩
    have hlookup : required (s.part data) key = (Value.lookup? (.text key) entries).elim
        (.error (.missingKey key)) .ok := by
      rw [hentries, required]
      cases Value.lookup? (.text key) entries <;> rfl
    show Decides data ([.mapping s] ++ [.given s key])
      (Except.ok () >>= fun _ => required (s.part data) key)
    refine (Decides.passes (List.forall_mem_singleton.mpr hpass)).bind fun _ _ => ?_
    rw [hlookup]
    refine .single (fun hgiven => ?_) (fun hmissing => ?_) False.elim
    · obtain ⟨w, hw⟩ := Option.ne_none_iff_exists'.mp fun h => hgiven.1 ⟨entries, hentries, h⟩
      exact ⟨w, by rw [hw]; rfl⟩
    · obtain ⟨entries', hentries', hnone⟩ := hmissing
      obtain rfl := Value.dict.inj (hentries.symm.trans hentries')
      exact ⟨_, by rw [hnone]; rfl, .inl rfl⟩
  · have hother : (mapping s).Mistyped data := fun entries h => hmapping ⟨entries, h⟩
    rw [(not_dict hother key).2]
    exact .stuck (stopsAt_cons hother.not_passes) hother (.inl rfl)

/-- The replacements in a section, which may be missing. -/
theorem decides_overrides (hpart : s.part data = orElse v (.dict []))
    (hkeys : s.keys = ["customization_id", "profile_id"]) :
    Decides data [.keys s, .mapping s] (overridesOf s.place v) := by
  rw [overridesOf]
  by_cases hv : v.truthy = true
  · have hvalue : s.part data = v := hpart.trans (if_pos hv)
    rw [if_pos hv, ← hkeys, ← hvalue]
    refine (decides_keys data s).bind fun _ _ => ?_
    refine (decides_optional data s "customization_id").bind fun customizationId hcustom => ?_
    obtain ⟨entries, hentries, _⟩ := optional_eq_ok hcustom
    rw [hentries]
    exact .passes (List.forall_mem_nil _)
  · have hempty : s.part data = .dict [] := hpart.trans (if_neg hv)
    have hnames : (s.part data).keyTexts? = some [] := by rw [hempty]; rfl
    rw [if_neg hv]
    refine .passes (List.forall_mem_cons.mpr ⟨⟨?_, ?_⟩, List.forall_mem_singleton.mpr
      ⟨id, fun hother => hother [] hempty⟩⟩)
    · rintro ⟨names, hnames', n, hn, _⟩
      obtain rfl := Option.some.inj (hnames.symm.trans hnames')
      cases hn
    · simp [Mistyped, hnames]

theorem filledText_of_text {blank : Failure} {t : String} (h : v.asText? = some t) :
    filledText blank v =
      if hfilled : Text.hasText t = true then .ok ⟨t, hfilled⟩ else .error blank := by
  rw [filledText, h]

theorem decides_filledId {t : String}
    (ht : (SettingsSection.reporter.entry data "id").toText = .ok t) :
    Decides data [.filledId] (filledText .blankReporterId (.text t)) := by
  rw [filledText_of_text rfl]
  refine .single (fun ⟨hrefused, _⟩ => ?_) (fun ⟨t', ht', hblank⟩ => ?_) False.elim
  · have hfilled : Text.hasText t = true := by
      by_contra hblank
      exact hrefused ⟨t, ht, Bool.eq_false_iff.mpr hblank⟩
    exact ⟨_, dif_pos hfilled⟩
  · obtain rfl := Except.ok.inj (ht.symm.trans ht')
    exact ⟨_, dif_neg (Bool.eq_false_iff.mp hblank), .inr rfl⟩

theorem decides_filledScheme (data : Value) :
    Decides data [.filledScheme] (filledText .blankReporterScheme
      (orElse (SettingsSection.reporter.entry data "scheme") ReportingSettings.defaultScheme)) := by
  refine .single (fun ⟨hrefused, hmistyped⟩ => ?_) (fun ⟨htruthy, t, ht, hblank⟩ => ?_)
    fun ⟨htruthy, hother⟩ => ?_
  · by_cases htruthy : (SettingsSection.reporter.entry data "scheme").truthy = true
    · obtain ⟨t, ht⟩ := Option.ne_none_iff_exists'.mp fun h => hmistyped ⟨htruthy, h⟩
      have hfilled : Text.hasText t = true := by
        by_contra hblank
        exact hrefused ⟨htruthy, t, ht, Bool.eq_false_iff.mpr hblank⟩
      rw [orElse, if_pos htruthy, filledText_of_text ht]
      exact ⟨_, dif_pos hfilled⟩
    · rw [orElse, if_neg htruthy, filledText_of_text rfl]
      exact ⟨_, dif_pos (by decide)⟩
  · rw [orElse, if_pos htruthy, filledText_of_text ht]
    exact ⟨_, dif_neg (Bool.eq_false_iff.mp hblank), .inr rfl⟩
  · rw [orElse, if_pos htruthy, filledText, hother]
    exact ⟨_, congrArg Except.error (if_pos htruthy), .inr rfl⟩

theorem levelOf_of_unknown {t : String} (h : Level.ofSettings? t = none) :
    levelOf (.text t) = .error .unknownLogLevel := by
  unfold levelOf
  dsimp only [Value.asText?]
  split
  · rename_i l hl
    cases h.symm.trans hl
  · rfl

theorem decides_knownLevel {level : Value}
    (h : levelValue (SettingsSection.logging.entry data "level") = .ok level) :
    Decides data [.knownLevel] (levelOf level) := by
  rw [levelValue] at h
  by_cases htruthy : (SettingsSection.logging.entry data "level").truthy = true
  · rw [if_pos htruthy] at h
    obtain ⟨t, ht, rfl⟩ := map_eq_ok.mp h
    refine .single (fun hpasses => ?_) (fun hrefused => ?_) False.elim
    · obtain ⟨l, hl⟩ := Option.ne_none_iff_exists'.mp fun hnone =>
        hpasses.1 ⟨htruthy, t, ht, hnone⟩
      exact ⟨_, ReportingSettings.levelOf_text hl⟩
    · obtain ⟨_, t', ht', hunknown⟩ := hrefused
      obtain rfl := Except.ok.inj (ht.symm.trans ht')
      exact ⟨_, levelOf_of_unknown hunknown, .inr rfl⟩
  · have hinfo : Level.ofSettings? "INFO" = some .info := by decide
    rw [if_neg htruthy] at h
    obtain rfl := Except.ok.inj h
    exact .single (fun _ => ⟨_, ReportingSettings.levelOf_text hinfo⟩)
      (fun hrefused => absurd hrefused.1 htruthy) False.elim

/-! ## 5. All checks -/

theorem sectionOf_dict (entries : List (Value × Value)) (key : String) :
    sectionOf (.dict entries) key = .ok (subsection (.dict entries) key) := rfl

/-- **How settings are read**: from a value of any kind, through all checks in their order. -/
theorem parse_decided (data : Value) : Decides data inOrder (ReportingSettings.parse data) := by
  rw [ReportingSettings.parse]
  refine (decides_keys data .settings).bind fun _ _ => ?_
  refine (decides_required data .settings "reporter").bind fun reporter hreporter => ?_
  obtain ⟨top, rfl, hlookup⟩ := required_eq_ok hreporter
  obtain rfl : SettingsSection.part .reporter (.dict top) = reporter := by
    rw [SettingsSection.part, valueAt, hlookup]
    rfl
  rw [sectionOf_dict, sectionOf_dict, sectionOf_dict, ok_bind, ok_bind, ok_bind]
  refine (decides_keys _ .reports).bind fun _ _ => ?_
  refine (decides_required _ .reporter "id").bind fun id hid => ?_
  obtain ⟨entries, hentries, hidLookup⟩ := required_eq_ok hid
  obtain rfl : SettingsSection.reporter.entry (.dict top) "id" = id := by
    rw [SettingsSection.entry, hentries, valueAt, hidLookup]
    rfl
  refine (Decides.of_stopsIf (c := .writtenId) (Value.toText_stopsIf _) Iff.rfl id).bind
    fun idText hidText => ?_
  rw [optional_of_dict hentries, ok_bind]
  refine (decides_optional _ .storage "database_url").bind fun url _ => ?_
  refine (decides_optional _ .logging "level").bind fun level hlevel => ?_
  obtain ⟨_, _, rfl⟩ := optional_eq_ok hlevel
  refine (Decides.of_stopsIf (c := .writtenLevel) (SettingsSection.levelValue_stopsIf _)
    Iff.rfl id).bind fun levelText hlevelText => ?_
  refine (decides_optional _ .reports "tsr").bind fun tsr htsr => ?_
  obtain ⟨reports, hreports, rfl⟩ := optional_eq_ok htsr
  refine (decides_overrides (s := .tsr) rfl rfl).bind fun tsr _ => ?_
  have heusr : optional (subsection (.dict top) "reports") "eusr" =
    .ok (valueAt (subsection (.dict top) "reports") "eusr") := optional_of_dict hreports "eusr"
  rw [heusr, ok_bind]
  refine (decides_overrides (s := .eusr) rfl rfl).bind fun eusr _ => ?_
  rw [ReportingSettings.make]
  refine (decides_filledId hidText).bind fun _ _ => ?_
  refine (decides_filledScheme _).bind fun _ _ => ?_
  refine (decides_knownLevel hlevelText).bind fun _ _ => ?_
  exact .passes (List.forall_mem_nil _)

end SettingsCheck

namespace ReportingSettings

/-- **How reading settings ends**, for a value of any kind: with settings or a failure that says what
    is wrong with them, unless the first check that does not pass is stuck on a value of a wrong
    kind. There are settings exactly if all checks pass; there is a failure that says what is wrong
    exactly if the first check that does not pass refuses something, and a failure about types
    exactly if it is stuck. -/
theorem parse_ends (data : Value) :
    (((∃ s, parse data = .ok s) ∨ ∃ e, parse data = .error e ∧ e.IsRefusal) ↔
      ¬ ∃ c, StopsAt (Passes data) inOrder c ∧ c.Mistyped data) ∧
    ((∃ s, parse data = .ok s) ↔ ∀ c ∈ inOrder, c.Passes data) ∧
    ((∃ e, parse data = .error e ∧ e.IsRefusal) ↔
      ∃ c, StopsAt (Passes data) inOrder c ∧ c.Refused data) ∧
    ((∃ e, parse data = .error e ∧ e.IsMistyping) ↔
      ∃ c, StopsAt (Passes data) inOrder c ∧ c.Mistyped data) := by
  have h := parse_decided data
  exact ⟨h.ends.trans (not_congr h.mistypes_iff), h.ok_iff, h.refuses_iff, h.mistypes_iff⟩

open SettingsSection in
/-- What a file with the section of the reporter only is read as. -/
theorem parse_reporter (reporter : Value) :
    parse (.ofFields [("reporter", reporter)]) = (do
      let id ← (← required reporter "id").toText
      let scheme ← optional reporter "scheme"
      make (.text id) defaultDatabaseUrl (orElse scheme defaultScheme) defaultLogLevel
        {} {}) := by
  simp [parse, checkKeys_fields, required_fields, optional_fields, sectionOf_fields,
    subsection_fields, orElse, overridesOf, levelValue_null, Value.truthy_null,
    ← Value.ofFields_nil]

/-- **A section of the reporter that is left empty** is not refused like one without an identifier:
    the failure is about types. -/
theorem parse_empty_reporter :
    (¬ ∀ fields : List (String × Value), (∃ s, parse (.ofFields fields) = .ok s) ∨
      ∃ e, parse (.ofFields fields) = .error e ∧ e.IsRefusal) ∧
    parse (.ofFields [("reporter", .null)]) = .error .wrongType ∧
    parse (.ofFields [("reporter", .ofFields [])]) = .error (.missingKey "id") := by
  have hempty : parse (.ofFields [("reporter", .null)]) = .error .wrongType := parse_reporter .null
  refine ⟨fun h => ?_, hempty, ?_⟩
  · rcases h [("reporter", .null)] with ⟨s, hs⟩ | ⟨e, he, hrefusal⟩
    · rw [hempty] at hs
      cases hs
    · rw [hempty] at he
      cases he
      exact absurd hrefusal (Failure.IsMistyping.not_isRefusal (.inl rfl))
  · rw [parse_reporter, SettingsSection.required_fields]
    rfl

end ReportingSettings

end PeppolStatistics
