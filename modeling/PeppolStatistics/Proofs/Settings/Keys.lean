import PeppolStatistics.Proofs.Checks
import PeppolStatistics.Proofs.Value.Dictionary
import PeppolStatistics.Proofs.Value.Written
import PeppolStatistics.Settings.Basic

/-!
# Keys of settings files

A settings file has seven sections, counting the file itself, and each has its own keys
(`SettingsSection`). What is read out of a file whose sections have texts as keys is told here step
by step, `parse_eq`: the keys of four sections are checked, two of them before the texts of the
identifier and the level are written and two after, and then the values are taken.

* `checkKeys_content`: a section is refused exactly if it has an unknown key, and the failure
  names all of them;
* `content_restrict`: a section without its unknown keys, with all other sections as they are;
* `parse_keys`: the first of the checked sections that has unknown keys is the one that is named,
  unless a text that cannot be written comes first (`TextsWritable`).
  In the sections of the reporter, the storage and the logging unknown keys are never seen, so that
  a misspelt key there passes for a default (`misspelt_url_accepted`).
-/

namespace PeppolStatistics

/-! ## 1. Sections -/

/-- The sections of a settings file; the file itself is the first one. -/
inductive SettingsSection where
  | settings
  | reporter
  | storage
  | logging
  | reports
  | tsr
  | eusr
deriving DecidableEq, Repr

namespace SettingsSection

/-- The keys of a section. -/
def keys : SettingsSection → List String
  | .settings => ["reporter", "storage", "logging", "reports"]
  | .reporter => ["id", "scheme"]
  | .storage => ["database_url"]
  | .logging => ["level"]
  | .reports => ["tsr", "eusr"]
  | .tsr | .eusr => ["customization_id", "profile_id"]

/-- The name of a section in messages. Sections of the file itself have their keys for names. -/
def place : SettingsSection → String
  | .settings => "settings"
  | .reporter => "reporter"
  | .storage => "storage"
  | .logging => "logging"
  | .reports => "reports"
  | .tsr => "reports.tsr"
  | .eusr => "reports.eusr"

/-- The sections whose keys are checked, in this order. -/
def checked : List SettingsSection := [.settings, .reports, .tsr, .eusr]

/-- The sections whose keys are not checked. -/
def unchecked : List SettingsSection := [.reporter, .storage, .logging]

/-- The value of a key in a section; a key that is missing counts as nothing. -/
def valueAt (part : Value) (key : String) : Value :=
  match part with
  | .dict es => (Value.lookup? (.text key) es).getD .null
  | _ => .null

/-- What stands in a section under a key, as a section: what counts as false is an empty one. -/
def subsection (part : Value) (key : String) : Value :=
  ReportingSettings.orElse (valueAt part key) (.dict [])

/-- What a section of some settings holds. -/
def content (data : Value) : SettingsSection → Value
  | .settings => data
  | .reporter => subsection data "reporter"
  | .storage => subsection data "storage"
  | .logging => subsection data "logging"
  | .reports => subsection data "reports"
  | .tsr => subsection (subsection data "reports") "tsr"
  | .eusr => subsection (subsection data "reports") "eusr"

/-- The keys of a section, as far as they are texts. -/
def namesIn : Value → List String
  | .dict es => es.filterMap fun e => e.1.asText?
  | _ => []

/-- The unknown keys of a section, each once, in ascending order. -/
def unknown (s : SettingsSection) (data : Value) : List String :=
  (distinct ((namesIn (s.content data)).filter fun n => !s.keys.contains n)).mergeSort
    fun a b => a ≤ b

/-- The first of the checked sections that has an unknown key. -/
def firstMisspelt? (data : Value) : Option SettingsSection :=
  checked.find? fun s => !(s.unknown data).isEmpty

end SettingsSection

/-- **Settings in sections**: every section has texts as keys, and the reporter has an identifier.
    A section that is missing or counts as false is an empty one. -/
structure InSections (data : Value) : Prop where
  fields : ∀ s : SettingsSection, ∃ fields, s.content data = .ofFields fields
  reporter : ∃ fields id, SettingsSection.reporter.content data = .ofFields fields ∧
    ("id", id) ∈ fields

/-- The file itself is a dictionary of named values. -/
theorem InSections.eq_ofFields {data : Value} (h : InSections data) :
    ∃ fields, data = .ofFields fields := h.fields .settings

namespace SettingsSection

variable {data : Value}

/-! ## 2. Checking a section -/

theorem namesIn_ofFields (fields : List (String × Value)) :
    namesIn (.ofFields fields) = fields.map (·.1) := by
  rw [Value.ofFields, namesIn, List.filterMap_map]
  exact congrFun List.filterMap_eq_map fields

/-- **What becomes of the keys of a section**, whatever it is: it is no section if it does not run
    through texts, and otherwise the unknown ones among these are refused. -/
theorem checkKeys_eq (place : String) (part : Value) (known : List String) :
    ReportingSettings.checkKeys place part known =
      match part.keyTexts? with
      | none => .error .wrongType
      | some names =>
        if (names.filter fun n => !known.contains n).isEmpty then .ok ()
        else .error (.unknownKeys place
          ((distinct (names.filter fun n => !known.contains n)).mergeSort fun a b => a ≤ b)) := by
  rw [ReportingSettings.checkKeys, ReportingSettings.elementSet, Value.keyTexts?]
  cases part.elements? with
  | none => rfl
  | some keys =>
    rw [Option.bind_some]
    have hunknown := Value.mapM_asText?_filter known keys
    cases htexts : keys.mapM Value.asText? with
    | none =>
      rw [htexts, Option.map_none] at hunknown
      dsimp only
      split
      · -- a key that is no text is unknown
        have hne : (keys.filter fun k => !known.any fun n => k.same (.text n)) ≠ [] := by
          intro hnil
          rw [hnil] at hunknown
          cases hunknown
        rw [ok_bind, if_neg (by rwa [List.isEmpty_iff]), hunknown]
        rfl
      · rfl
    | some names =>
      rw [htexts, Option.map_some] at hunknown
      dsimp only
      rw [if_pos (Value.allHashable_of_texts htexts), ok_bind, ← Value.isEmpty_of_texts hunknown,
        hunknown]
      rfl

theorem checkKeys_fields {fields : List (String × Value)} {known : List String} (place : String)
    (h : ∀ f ∈ fields, f.1 ∈ known) :
    ReportingSettings.checkKeys place (.ofFields fields) known = .ok () := by
  rw [checkKeys_eq, Value.keyTexts?_fields]
  refine if_pos ?_
  simpa [List.filter_eq_nil_iff] using fun n v hf => h (n, v) hf

theorem valueAt_fields (fields : List (String × Value)) (key : String) :
    valueAt (.ofFields fields) key =
      ((fields.find? fun f => f.1 == key).map (·.2)).getD .null := by
  rw [Value.ofFields, valueAt, Value.lookup?_fields]

/-- A section in a dictionary of named values. -/
theorem subsection_fields (fields : List (String × Value)) (key : String) :
    subsection (.ofFields fields) key =
      ReportingSettings.orElse (((fields.find? fun f => f.1 == key).map (·.2)).getD .null)
        (.dict []) := by
  rw [subsection, valueAt_fields]

theorem unknown_fields {s : SettingsSection} {fields : List (String × Value)}
    (h : s.content data = .ofFields fields) :
    s.unknown data = (distinct ((fields.map (·.1)).filter fun n => !s.keys.contains n)).mergeSort
      fun a b => a ≤ b := by
  rw [unknown, h, namesIn_ofFields]

theorem unknown_eq_nil_iff {s : SettingsSection} :
    s.unknown data = [] ↔ (namesIn (s.content data)).filter (fun n => !s.keys.contains n) = [] := by
  simp only [List.eq_nil_iff_forall_not_mem, unknown, List.mem_mergeSort, mem_distinct]

/-- A section all of whose keys are known. -/
theorem unknown_eq_nil {s : SettingsSection} {fields : List (String × Value)}
    (h : s.content data = .ofFields fields) (hkeys : ∀ f ∈ fields, f.1 ∈ s.keys) :
    s.unknown data = [] := by
  rw [unknown_eq_nil_iff, h, namesIn_ofFields, List.filter_map, List.map_eq_nil_iff,
    List.filter_eq_nil_iff]
  intro f hf
  simpa using hkeys f hf

/-- **A section is refused exactly if it has an unknown key**; the failure names all of them. -/
theorem checkKeys_content (h : InSections data) (s : SettingsSection) :
    ReportingSettings.checkKeys s.place (s.content data) s.keys =
      if (s.unknown data).isEmpty then .ok ()
      else .error (.unknownKeys s.place (s.unknown data)) := by
  obtain ⟨fields, hfields⟩ := h.fields s
  have hempty : (s.unknown data).isEmpty =
      ((fields.map (·.1)).filter fun n => !s.keys.contains n).isEmpty := by
    rw [Bool.eq_iff_iff, List.isEmpty_iff, List.isEmpty_iff, unknown_eq_nil_iff, hfields,
      namesIn_ofFields]
  rw [hempty, unknown_fields hfields, hfields, checkKeys_eq, Value.keyTexts?_fields]

/-! ## 3. Reading the sections -/

theorem required_fields (fields : List (String × Value)) (key : String) :
    ReportingSettings.required (.ofFields fields) key =
      ((fields.find? fun f => f.1 == key).map (·.2)).elim (.error (.missingKey key)) .ok := by
  rw [Value.ofFields, ReportingSettings.required, Value.lookup?_fields]
  cases fields.find? fun f => f.1 == key <;> rfl

theorem optional_fields (fields : List (String × Value)) (key : String) :
    ReportingSettings.optional (.ofFields fields) key =
      .ok (((fields.find? fun f => f.1 == key).map (·.2)).getD .null) := by
  rw [Value.ofFields, ReportingSettings.optional, Value.lookup?_fields]

theorem sectionOf_fields (fields : List (String × Value)) (key : String) :
    ReportingSettings.sectionOf (.ofFields fields) key =
      .ok (subsection (.ofFields fields) key) := rfl

theorem optional_content (h : InSections data) (s : SettingsSection) (key : String) :
    ReportingSettings.optional (s.content data) key = .ok (valueAt (s.content data) key) := by
  obtain ⟨fields, hfields⟩ := h.fields s
  rw [hfields]
  rfl

/-- A section of a section is read as one, be it missing or not. -/
theorem sectionOf_content (h : InSections data) (s : SettingsSection) (key : String) :
    ReportingSettings.sectionOf (s.content data) key = .ok (subsection (s.content data) key) := by
  rw [ReportingSettings.sectionOf, optional_content h]
  rfl

/-- The section of the reporter is there. -/
theorem required_reporter (h : InSections data) :
    ReportingSettings.required data "reporter" = .ok (reporter.content data) := by
  obtain ⟨top, htop⟩ := h.eq_ofFields
  obtain ⟨fields, id, hfields, hid⟩ := h.reporter
  have htruthy : (valueAt data "reporter").truthy = true := by
    by_contra hfalse
    have hempty : reporter.content data = .ofFields [] := if_neg hfalse
    rw [hfields, Value.ofFields, Value.ofFields, Value.dict.injEq, List.map_nil,
      List.map_eq_nil_iff] at hempty
    rw [hempty] at hid
    cases hid
  have hcontent : reporter.content data = valueAt data "reporter" := if_pos htruthy
  subst htop
  rw [hcontent]
  rw [Value.ofFields, valueAt] at htruthy ⊢
  rw [ReportingSettings.required]
  cases hlookup : Value.lookup? (.text "reporter") (top.map fun f => (Value.text f.1, f.2)) with
  | none =>
    rw [hlookup] at htruthy
    cases htruthy
  | some part => rfl

/-- The identifier of the reporter is there. -/
theorem required_id (h : InSections data) :
    ReportingSettings.required (reporter.content data) "id" =
      .ok (valueAt (reporter.content data) "id") := by
  obtain ⟨fields, id, hfields, hid⟩ := h.reporter
  have hfound : (fields.find? fun f => f.1 == "id").isSome :=
    List.find?_isSome.mpr ⟨_, hid, beq_self_eq_true _⟩
  obtain ⟨f, hf⟩ := Option.isSome_iff_exists.mp hfound
  rw [hfields, required_fields, valueAt_fields, hf]
  rfl

/-- The replacements that a section holds. -/
def overridesIn (part : Value) : ReportOverrides :=
  ⟨valueAt part "customization_id", valueAt part "profile_id"⟩

/-- The replacements are read from a section that is checked, be it missing or not. -/
theorem overridesOf_eq {v : Value} {fields : List (String × Value)} (place : String)
    (hfields : ReportingSettings.orElse v (.dict []) = .ofFields fields) :
    ReportingSettings.overridesOf place v =
      (ReportingSettings.checkKeys place (ReportingSettings.orElse v (.dict [])) tsr.keys) >>=
        fun _ => pure (overridesIn (ReportingSettings.orElse v (.dict []))) := by
  rw [ReportingSettings.overridesOf]
  by_cases hv : v.truthy = true
  · have hvalue : ReportingSettings.orElse v (.dict []) = v := if_pos hv
    rw [hvalue] at hfields ⊢
    rw [if_pos hv, hfields]
    rfl
  · have hvalue : ReportingSettings.orElse v (.dict []) = .dict [] := if_neg hv
    rw [if_neg hv, hvalue]
    rfl

/-- What is read as text can be written: the identifier of the reporter, and the level if there is
    one. -/
def TextsWritable (data : Value) : Prop :=
  ¬ (valueAt (reporter.content data) "id").ShowsLong ∧
    ((valueAt (logging.content data) "level").truthy = true →
      ¬ (valueAt (logging.content data) "level").ShowsLong)

/-- The texts of the identifier and of the level. -/
def textsOf (data : Value) : Except Failure (String × Value) := do
  let id ← (valueAt (reporter.content data) "id").toText
  let level ← ReportingSettings.levelValue (valueAt (logging.content data) "level")
  return (id, level)

/-- The settings that the values in the sections make, with these texts. -/
def settingsOf (data : Value) (texts : String × Value) : Except Failure ReportingSettings :=
  let value (s : SettingsSection) (key : String) : Value := valueAt (s.content data) key
  ReportingSettings.make (.text texts.1)
    (ReportingSettings.orElse (value .storage "database_url") ReportingSettings.defaultDatabaseUrl)
    (ReportingSettings.orElse (value .reporter "scheme") ReportingSettings.defaultScheme)
    texts.2 (overridesIn (tsr.content data)) (overridesIn (eusr.content data))

/-- The keys of some sections are checked, one section after the other. -/
def checkAll (sections : List SettingsSection) (data : Value) : Except Failure Unit :=
  sections.forM fun s => ReportingSettings.checkKeys s.place (s.content data) s.keys

/-- The first of some sections that has an unknown key. -/
def misspeltIn? (sections : List SettingsSection) (data : Value) : Option SettingsSection :=
  sections.find? fun s => !(s.unknown data).isEmpty

/-- **The first section with unknown keys is the one that is refused.** -/
theorem checkAll_eq (h : InSections data) (sections : List SettingsSection) :
    checkAll sections data = (misspeltIn? sections data).elim (.ok ()) fun s =>
      .error (.unknownKeys s.place (s.unknown data)) := by
  simp only [checkAll, checkKeys_content h]
  exact forM_find?

theorem firstMisspelt?_eq (data : Value) :
    firstMisspelt? data =
      (misspeltIn? [.settings, .reports] data).or (misspeltIn? [.tsr, .eusr] data) := by
  rw [misspeltIn?, misspeltIn?, ← List.find?_append]
  rfl

/-- **How settings are read**: the keys of the file and of the reports are checked, the texts are
    written, the keys of the replacements are checked, and then the values are taken. -/
theorem parse_eq (h : InSections data) :
    ReportingSettings.parse data = (do
      checkAll [.settings, .reports] data
      let texts ← textsOf data
      checkAll [.tsr, .eusr] data
      settingsOf data texts) := by
  obtain ⟨tsrFields, htsr⟩ := h.fields .tsr
  obtain ⟨eusrFields, heusr⟩ := h.fields .eusr
  have hstorage := sectionOf_content h .settings "storage"
  have hlogging := sectionOf_content h .settings "logging"
  have hreports := sectionOf_content h .settings "reports"
  have hscheme := optional_content h .reporter "scheme"
  have hurl := optional_content h .storage "database_url"
  have hlevel := optional_content h .logging "level"
  have htsrValue := optional_content h .reports "tsr"
  have heusrValue := optional_content h .reports "eusr"
  simp only [content] at htsr heusr hstorage hlogging hreports hurl hlevel htsrValue heusrValue
  rw [ReportingSettings.parse, required_reporter h, hstorage, hlogging, hreports]
  simp only [ok_bind, required_id h, hscheme, hurl, hlevel, htsrValue, heusrValue,
    overridesOf_eq _ htsr, overridesOf_eq _ heusr]
  show _ = (do
    (do
      ReportingSettings.checkKeys "settings" data settings.keys
      ReportingSettings.checkKeys "reports" (reports.content data) reports.keys
      pure ())
    let texts ← textsOf data
    (do
      ReportingSettings.checkKeys "reports.tsr" (tsr.content data) tsr.keys
      ReportingSettings.checkKeys "reports.eusr" (eusr.content data) eusr.keys
      pure ())
    settingsOf data texts)
  simp only [textsOf, bind_assoc, pure_bind]
  rfl

theorem levelValue_null :
    ReportingSettings.levelValue .null = .ok ReportingSettings.defaultLogLevel := rfl

theorem levelValue_stopsIf (v : Value) :
    StopsIf (v.truthy = true ∧ v.ShowsLong) (ReportingSettings.levelValue v) := by
  rw [ReportingSettings.levelValue]
  split
  · rename_i hv
    exact (v.toText_stopsIf.map _).congr (and_iff_right hv).symm
  · rename_i hv
    exact .done fun h => hv h.1

theorem textsOf_stopsIf (data : Value) : StopsIf (¬ TextsWritable data) (textsOf data) := by
  have htexts : StopsIf _ (textsOf data) :=
    (Value.toText_stopsIf _).bind fun id _ =>
      (levelValue_stopsIf _).map fun level => (id, level)
  refine htexts.congr ?_
  rw [TextsWritable, not_and_or, not_not, Classical.not_imp, not_not]

/-- Values are not refused for unknown keys. -/
theorem settingsOf_ne_unknownKeys (data : Value) (texts : String × Value) (place : String)
    (names : List String) : settingsOf data texts ≠ .error (.unknownKeys place names) := by
  have hfilled : ∀ (blank : Failure) (v : Value), blank ≠ .unknownKeys place names →
      ReportingSettings.filledText blank v ≠ .error (.unknownKeys place names) := by
    intro blank v hblank
    unfold ReportingSettings.filledText
    split
    · split <;> simp [hblank]
    · split <;> simp [hblank]
  have hlevel : ∀ v, ReportingSettings.levelOf v ≠ .error (.unknownKeys place names) := by
    intro v
    unfold ReportingSettings.levelOf
    split
    · split <;> simp
    · simp
  refine bind_ne_error (hfilled _ _ nofun) fun _ => ?_
  refine bind_ne_error (hfilled _ _ nofun) fun _ => ?_
  exact bind_ne_error (hlevel _) fun _ => nofun

/-- **The first checked section with unknown keys is the one that is named**, with these keys. A
    section of replacements is reached only if the texts before it can be written. -/
theorem parse_eq_unknownKeys_iff (h : InSections data) (place : String) (names : List String) :
    ReportingSettings.parse data = .error (.unknownKeys place names) ↔
      ∃ s, firstMisspelt? data = some s ∧ place = s.place ∧ names = s.unknown data ∧
        (s ∈ [.tsr, .eusr] → TextsWritable data) := by
  have hnamed (s : SettingsSection) (hs : s ∈ [.tsr, .eusr] → TextsWritable data) :
      (Except.error (.unknownKeys s.place (s.unknown data)) : Except Failure ReportingSettings) =
          .error (.unknownKeys place names) ↔
        ∃ s', some s = some s' ∧ place = s'.place ∧ names = s'.unknown data ∧
          (s' ∈ [.tsr, .eusr] → TextsWritable data) := by
    constructor
    · intro hsame
      cases hsame
      exact ⟨s, rfl, rfl, rfl, hs⟩
    · rintro ⟨s', hs', rfl, rfl, -⟩
      rw [Option.some.inj hs']
  have htexts := textsOf_stopsIf data
  rw [parse_eq h, checkAll_eq h, checkAll_eq h, firstMisspelt?_eq]
  cases hbefore : misspeltIn? [.settings, .reports] data with
  | some s =>
    have hmem := List.mem_of_find?_eq_some hbefore
    have hs : s ∉ [SettingsSection.tsr, .eusr] := by
      revert hmem
      cases s <;> decide
    exact hnamed s (absurd · hs)
  | none =>
    rw [Option.elim_none, ok_bind, Option.none_or]
    generalize textsOf data = texts at htexts
    cases htexts with
    | stopped hlong =>
      refine iff_of_false nofun ?_
      rintro ⟨s, hs, -, -, hwritable⟩
      exact hlong (hwritable (List.mem_of_find?_eq_some hs))
    | done hwritable =>
      rw [not_not] at hwritable
      cases misspeltIn? [.tsr, .eusr] data with
      | none => simp [settingsOf_ne_unknownKeys]
      | some s => exact hnamed s fun _ => hwritable

/-! ## 4. Keys that are never seen -/

/-- A section without its unknown keys. -/
def onlyKnown (known : List String) : Value → Value
  | .dict es => .dict (es.filter fun e => known.any fun n => e.1.same (.text n))
  | v => v

/-- Some settings with one section of the file without its unknown keys. -/
def restrict (s : SettingsSection) : Value → Value
  | .dict es =>
    .dict (es.map fun e => (e.1, if e.1.same (.text s.place) then onlyKnown s.keys e.2 else e.2))
  | v => v

variable {s t : SettingsSection} {top : List (String × Value)}

theorem restrict_fields (s : SettingsSection) (top : List (String × Value)) :
    restrict s (.ofFields top) =
      .ofFields (top.map fun f => (f.1, if f.1 = s.place then onlyKnown s.keys f.2 else f.2)) := by
  simp only [Value.ofFields, restrict, List.map_map, Value.dict.injEq]
  refine List.map_congr_left fun f _ => ?_
  simp only [Function.comp_apply, Value.same_text, beq_iff_eq]

theorem onlyKnown_fields (known : List String) (fields : List (String × Value)) :
    onlyKnown known (.ofFields fields) = .ofFields (fields.filter fun f => known.contains f.1) := by
  rw [Value.ofFields, onlyKnown, Value.ofFields, List.filter_map]
  refine congrArg (fun fs => Value.dict (List.map _ fs)) (List.filter_congr fun f _ => ?_)
  rw [List.contains_eq_any_beq]
  simp only [Function.comp_apply, Value.same_text]

/-- The known keys of a section are all there still. -/
theorem valueAt_onlyKnown {known : List String} {key : String} (hkey : key ∈ known) (v : Value) :
    valueAt (onlyKnown known v) key = valueAt v key := by
  cases v with
  | dict es =>
    have hsame : ∀ e : Value × Value,
        decide ((known.any fun n => e.1.same (.text n)) = true ∧ e.1.same (.text key) = true) =
          e.1.same (.text key) := by
      intro e
      cases he : e.1.same (.text key) with
      | false => simp
      | true => simpa using ⟨key, hkey, he⟩
    rw [onlyKnown, valueAt, valueAt, Value.lookup?, Value.lookup?, List.find?_filter]
    simp only [hsame]
  | _ => rfl

theorem valueAt_restrict (s : SettingsSection) (top : List (String × Value)) (key : String) :
    valueAt (restrict s (.ofFields top)) key =
      if key = s.place then onlyKnown s.keys (valueAt (.ofFields top) key)
      else valueAt (.ofFields top) key := by
  rw [restrict_fields]
  simp only [Value.ofFields, valueAt, Value.lookup?_fields, List.find?_map, Option.map_map]
  show (Option.map _ (top.find? fun f => f.1 == key)).getD Value.null = _
  cases hfound : top.find? fun f => f.1 == key with
  | none => split <;> rfl
  | some f =>
    have hname : f.1 = key := by simpa using List.find?_some hfound
    subst hname
    split <;> rename_i hplace <;> simp [hplace]

theorem orElse_onlyKnown (known : List String) (v : Value) :
    ReportingSettings.orElse (onlyKnown known v) (.dict []) =
      onlyKnown known (ReportingSettings.orElse v (.dict [])) := by
  by_cases hdict : ∃ es, v = .dict es
  · obtain ⟨es, rfl⟩ := hdict
    cases es with
    | nil => rfl
    | cons e es =>
      -- what is left may be empty, and is an empty section then
      show ReportingSettings.orElse (onlyKnown known (.dict (e :: es))) (.dict []) =
        onlyKnown known (.dict (e :: es))
      rw [onlyKnown]
      generalize (e :: es).filter (fun e => known.any fun n => e.1.same (.text n)) = kept
      cases kept <;> rfl
  · have hkept : onlyKnown known v = v := by
      unfold onlyKnown
      split
      · exact absurd ⟨_, rfl⟩ hdict
      · rfl
    rw [hkept, ReportingSettings.orElse]
    split
    · exact hkept.symm
    · rfl

/-- **A section without its unknown keys**: the other sections are as they are. -/
theorem content_restrict (hs : s ∈ unchecked) (htop : data = .ofFields top)
    (ht : t ≠ .settings) :
    t.content (restrict s data) =
      if t = s then onlyKnown s.keys (t.content data) else t.content data := by
  have hsub : ∀ key, subsection (restrict s data) key =
      if key = s.place then onlyKnown s.keys (subsection data key) else subsection data key := by
    intro key
    rw [htop, subsection, valueAt_restrict]
    split
    · rw [orElse_onlyKnown, subsection]
    · rfl
  have hplace : ∀ u ∈ [reporter, storage, logging, reports], (u.place = s.place) = (u = s) := by
    intro u _
    simp only [unchecked, List.mem_cons, List.not_mem_nil, or_false] at hs
    rcases hs with rfl | rfl | rfl <;> cases u <;> decide
  have hdeep : t = .tsr ∨ t = .eusr → t ≠ s ∧ ("reports" = s.place) = False := by
    simp only [unchecked, List.mem_cons, List.not_mem_nil, or_false] at hs
    rcases hs with rfl | rfl | rfl <;> rintro (rfl | rfl) <;> decide
  cases t with
  | settings => exact absurd rfl ht
  | tsr =>
    obtain ⟨hne, hreports⟩ := hdeep (.inl rfl)
    simp only [content, hsub, hreports, if_false, if_neg hne]
  | eusr =>
    obtain ⟨hne, hreports⟩ := hdeep (.inr rfl)
    simp only [content, hsub, hreports, if_false, if_neg hne]
  | reporter =>
    rw [content, hsub]
    exact ite_congr (hplace .reporter (by simp)) (fun _ => rfl) fun _ => rfl
  | storage =>
    rw [content, hsub]
    exact ite_congr (hplace .storage (by simp)) (fun _ => rfl) fun _ => rfl
  | logging =>
    rw [content, hsub]
    exact ite_congr (hplace .logging (by simp)) (fun _ => rfl) fun _ => rfl
  | reports =>
    rw [content, hsub]
    exact ite_congr (hplace .reports (by simp)) (fun _ => rfl) fun _ => rfl

theorem inSections_restrict (hs : s ∈ unchecked) (h : InSections data) :
    InSections (restrict s data) := by
  obtain ⟨top, htop⟩ := h.eq_ofFields
  refine ⟨fun t => ?_, ?_⟩
  · by_cases ht : t = .settings
    · rw [ht, htop]
      exact ⟨_, restrict_fields s top⟩
    · obtain ⟨fields, hfields⟩ := h.fields t
      rw [content_restrict hs htop ht, hfields, onlyKnown_fields]
      split
      · exact ⟨_, rfl⟩
      · exact ⟨_, rfl⟩
  · obtain ⟨fields, id, hfields, hid⟩ := h.reporter
    rw [content_restrict hs htop (by decide), hfields, onlyKnown_fields]
    split
    · refine ⟨_, id, rfl, List.mem_filter.mpr ⟨hid, ?_⟩⟩
      rename_i hreporter
      rw [← hreporter]
      show reporter.keys.contains "id" = true
      decide
    · exact ⟨fields, id, rfl, hid⟩

/-- What is checked is as it was. -/
theorem unknown_restrict (hs : s ∈ unchecked) (h : InSections data) (ht : t ∈ checked) :
    t.unknown (restrict s data) = t.unknown data := by
  obtain ⟨top, htop⟩ := h.eq_ofFields
  have hnames : namesIn (t.content (restrict s data)) = namesIn (t.content data) := by
    by_cases hsettings : t = .settings
    · rw [hsettings, htop]
      show namesIn (restrict s (.ofFields top)) = namesIn (.ofFields top)
      rw [restrict_fields, namesIn_ofFields, namesIn_ofFields, List.map_map]
      rfl
    · have hne : t ≠ s := by
        rintro rfl
        revert hs ht
        cases t <;> decide
      rw [content_restrict hs htop hsettings, if_neg hne]
  rw [unknown, unknown, hnames]

/-- What is taken is as it was. -/
theorem valueAt_content_restrict (hs : s ∈ unchecked) (h : InSections data) (ht : t ≠ .settings)
    {key : String} (hkey : key ∈ t.keys) :
    valueAt (t.content (restrict s data)) key = valueAt (t.content data) key := by
  obtain ⟨top, htop⟩ := h.eq_ofFields
  rw [content_restrict hs htop ht]
  split
  · rename_i hts
    rw [← hts]
    exact valueAt_onlyKnown hkey _
  · rfl

theorem textsOf_restrict (hs : s ∈ unchecked) (h : InSections data) :
    textsOf (restrict s data) = textsOf data := by
  rw [textsOf, textsOf, valueAt_content_restrict hs h (by decide) (by decide),
    valueAt_content_restrict hs h (by decide) (by decide)]

theorem settingsOf_restrict (hs : s ∈ unchecked) (h : InSections data) :
    settingsOf (restrict s data) = settingsOf data := by
  have hvalue (t : SettingsSection) (key : String) (ht : t ≠ .settings) (hkey : key ∈ t.keys) :=
    valueAt_content_restrict hs h ht hkey
  funext texts
  simp only [settingsOf, overridesIn, hvalue .reporter "scheme" (by decide) (by decide),
    hvalue .storage "database_url" (by decide) (by decide),
    hvalue .tsr _ (by decide) (List.mem_cons_self),
    hvalue .tsr "profile_id" (by decide) (by decide),
    hvalue .eusr "customization_id" (by decide) (by decide),
    hvalue .eusr "profile_id" (by decide) (by decide)]

/-- What is checked is checked as it was. -/
theorem checkAll_restrict (hs : s ∈ unchecked) (h : InSections data)
    {sections : List SettingsSection} (hsections : ∀ t ∈ sections, t ∈ checked) :
    checkAll sections (restrict s data) = checkAll sections data := by
  have hrestricted := inSections_restrict hs h
  refine forM_congr fun t ht => ?_
  rw [checkKeys_content hrestricted, checkKeys_content h, unknown_restrict hs h (hsections t ht)]

/-- **Unknown keys of a section that is not checked are never seen.** -/
theorem parse_restrict (hs : s ∈ unchecked) (h : InSections data) :
    ReportingSettings.parse (restrict s data) = ReportingSettings.parse data := by
  rw [parse_eq (inSections_restrict hs h), parse_eq h, textsOf_restrict hs h,
    settingsOf_restrict hs h, checkAll_restrict hs h (by decide),
    checkAll_restrict hs h (by decide)]

end SettingsSection

/-! ## 5. Misspelt keys -/

open SettingsSection in
/-- **What becomes of unknown keys.** Settings are refused for their keys exactly if the file, the
    section of the reports, or a section of replacements has an unknown key; the failure names the
    first such section and its unknown keys. The replacements are reached if the identifier and the
    level can be written, as texts always can. In the sections of the reporter, the storage and the
    logging unknown keys make no difference at all. -/
theorem ReportingSettings.parse_keys {data : Value} (h : InSections data) :
    (∀ place names, parse data = .error (.unknownKeys place names) ↔
      ∃ s, firstMisspelt? data = some s ∧ place = s.place ∧ names = s.unknown data ∧
        (s ∈ [.tsr, .eusr] → TextsWritable data)) ∧
    ∀ s ∈ [reporter, storage, logging], parse (restrict s data) = parse data :=
  ⟨parse_eq_unknownKeys_iff h, fun _ hs => parse_restrict hs h⟩

/-- A file that misspells a key of the storage and one of the replacements. -/
def misspeltTwice : Value :=
  .ofFields
    [("reporter", .ofFields [("id", .text "POP000001")]),
     ("storage", .ofFields [("databse_url", .text "sqlite:///reporting.db")]),
     ("reports", .ofFields [("tsr", .ofFields [("profil_id", .text "urn:example")])])]

open SettingsSection in
/-- Of two misspelt keys the one of the replacements is named, and it alone makes a difference. -/
theorem ReportingSettings.parse_keys_twice :
    InSections misspeltTwice ∧
      parse misspeltTwice = .error (.unknownKeys "reports.tsr" ["profil_id"]) ∧
      parse (restrict .storage misspeltTwice) = parse misspeltTwice := by
  have hreporter : reporter.content misspeltTwice = .ofFields [("id", .text "POP000001")] :=
    subsection_fields _ _
  have hstorage : storage.content misspeltTwice =
      .ofFields [("databse_url", .text "sqlite:///reporting.db")] := subsection_fields _ _
  have hlogging : logging.content misspeltTwice = .ofFields [] := subsection_fields _ _
  have hreports : reports.content misspeltTwice =
      .ofFields [("tsr", .ofFields [("profil_id", .text "urn:example")])] := subsection_fields _ _
  have htsr : SettingsSection.tsr.content misspeltTwice =
      .ofFields [("profil_id", .text "urn:example")] :=
    (congrArg (subsection · "tsr") hreports).trans (subsection_fields _ _)
  have heusr : SettingsSection.eusr.content misspeltTwice = .ofFields [] :=
    (congrArg (subsection · "eusr") hreports).trans (subsection_fields _ _)
  have h : InSections misspeltTwice :=
    { fields := fun s => by
        cases s with
        | settings => exact ⟨_, rfl⟩
        | reporter => exact ⟨_, hreporter⟩
        | storage => exact ⟨_, hstorage⟩
        | logging => exact ⟨_, hlogging⟩
        | reports => exact ⟨_, hreports⟩
        | tsr => exact ⟨_, htsr⟩
        | eusr => exact ⟨_, heusr⟩
      reporter := ⟨_, _, hreporter, List.mem_cons_self⟩ }
  have hsettings : settings.unknown misspeltTwice = [] := unknown_eq_nil rfl (by decide)
  have hknown : reports.unknown misspeltTwice = [] := unknown_eq_nil hreports (by decide)
  have hunknown : SettingsSection.tsr.unknown misspeltTwice = ["profil_id"] :=
    (unknown_fields htsr).trans (List.mergeSort_singleton "profil_id")
  have hfirst : firstMisspelt? misspeltTwice = some .tsr := by
    simp [firstMisspelt?, checked, hsettings, hknown, hunknown]
  have hwritable : TextsWritable misspeltTwice := by
    rw [TextsWritable, hreporter, hlogging, valueAt_fields, valueAt_fields]
    exact ⟨Value.not_showsLong_of_text rfl, nofun⟩
  refine ⟨h, ?_, (parse_keys h).2 .storage (by decide)⟩
  exact ((parse_keys h).1 _ _).mpr ⟨.tsr, hfirst, rfl, hunknown.symm, fun _ => hwritable⟩

namespace ReportingSettings

theorem levelOf_text {s : String} {l : Level} (h : Level.ofSettings? s = some l) :
    levelOf (.text s) = .ok ⟨(s, l), h⟩ := by
  unfold levelOf
  rw [Value.asText?]
  dsimp only
  split
  · rename_i l' h'
    cases h'.symm.trans h
    rfl
  · rename_i h'
    cases h'.symm.trans h

/-- Settings are made of texts that are filled and of the name of a level. -/
theorem make_texts {reporterId scheme logLevel : String} {level : Level}
    (hid : Text.hasText reporterId = true) (hscheme : Text.hasText scheme = true)
    (hlevel : Level.ofSettings? logLevel = some level) (url : Value) (tsr eusr : ReportOverrides) :
    make (.text reporterId) url (.text scheme) (.text logLevel) tsr eusr =
      .ok ⟨reporterId, url, scheme, logLevel, level, tsr, eusr, hid, hscheme, hlevel⟩ := by
  have hfilled : ∀ {s : String} (h : Text.hasText s = true) (blank : Failure),
      filledText blank (.text s) = .ok ⟨s, h⟩ := fun h _ => dif_pos h
  simp only [make, hfilled hid, hfilled hscheme, levelOf_text hlevel, ok_bind]
  rfl

end ReportingSettings

/-- A file that misspells the key of the database and is right otherwise. -/
def misspeltUrl : Value :=
  .ofFields
    [("reporter", .ofFields [("id", .text "POP000001")]),
     ("storage", .ofFields [("databse_url", .text "sqlite:///reporting.db")])]

open SettingsSection in
/-- **A misspelt key passes for a default**: the file is accepted, and the database is the one in
    memory. -/
theorem ReportingSettings.misspelt_url_accepted :
    InSections misspeltUrl ∧ SettingsSection.storage.unknown misspeltUrl = ["databse_url"] ∧
      ∃ s, parse misspeltUrl = .ok s ∧ s.databaseUrl = .text "sqlite://" := by
  have hreporter : reporter.content misspeltUrl = .ofFields [("id", .text "POP000001")] :=
    subsection_fields _ _
  have hstorage : storage.content misspeltUrl =
      .ofFields [("databse_url", .text "sqlite:///reporting.db")] := subsection_fields _ _
  have hlogging : logging.content misspeltUrl = .ofFields [] := subsection_fields _ _
  have hreports : reports.content misspeltUrl = .ofFields [] := subsection_fields _ _
  have htsr : SettingsSection.tsr.content misspeltUrl = .ofFields [] :=
    (congrArg (subsection · "tsr") hreports).trans (subsection_fields _ _)
  have heusr : SettingsSection.eusr.content misspeltUrl = .ofFields [] :=
    (congrArg (subsection · "eusr") hreports).trans (subsection_fields _ _)
  have h : InSections misspeltUrl :=
    { fields := fun s => by
        cases s with
        | settings => exact ⟨_, rfl⟩
        | reporter => exact ⟨_, hreporter⟩
        | storage => exact ⟨_, hstorage⟩
        | logging => exact ⟨_, hlogging⟩
        | reports => exact ⟨_, hreports⟩
        | tsr => exact ⟨_, htsr⟩
        | eusr => exact ⟨_, heusr⟩
      reporter := ⟨_, _, hreporter, List.mem_cons_self⟩ }
  refine ⟨h, (unknown_fields hstorage).trans (List.mergeSort_singleton "databse_url"), ?_⟩
  have hsettings : settings.unknown misspeltUrl = [] := unknown_eq_nil rfl (by decide)
  have hbefore : misspeltIn? [.settings, .reports] misspeltUrl = none := by
    simp [misspeltIn?, hsettings, unknown_eq_nil hreports]
  have hafter : misspeltIn? [.tsr, .eusr] misspeltUrl = none := by
    simp [misspeltIn?, unknown_eq_nil htsr, unknown_eq_nil heusr]
  have htexts : textsOf misspeltUrl = .ok ("POP000001", ReportingSettings.defaultLogLevel) := by
    rw [textsOf, hreporter, hlogging, valueAt_fields, valueAt_fields]
    rfl
  have hid : Text.hasText "POP000001" = true := by decide
  have hscheme : Text.hasText Identifier.serviceProviderScheme = true := by decide
  have hinfo : Level.ofSettings? "INFO" = some .info := by decide
  rw [parse_eq h, checkAll_eq h, checkAll_eq h, hbefore, hafter, htexts]
  simp only [Option.elim_none, ok_bind, settingsOf, hreporter, hstorage, valueAt_fields]
  exact ⟨_, make_texts hid hscheme hinfo _ _ _, rfl⟩

end PeppolStatistics
