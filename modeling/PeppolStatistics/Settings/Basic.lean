import PeppolStatistics.Report.Builder

/-!
# Settings

The settings of a service provider: who reports, where the items are stored, what is logged, and
replacements for the identifiers of the reports. Part 2 makes settings of named values, part 3
reads them out of nested sections; a key that is not known is refused, so that a misspelt one does
not pass for a default. Part 4 applies settings to a builder.
-/

namespace PeppolStatistics

/-! ## 1. The types -/

/-- Replacements for the identifiers of a kind of report. -/
structure ReportOverrides where
  customizationId : Value := .null
  profileId : Value := .null

namespace Level

/-- The capital form of a letter, as far as it can occur in the name of a level: of the ASCII
    letters and of the small letter i without a dot. -/
def capital (c : Char) : Char := if c == 'ı' then 'I' else c.toUpper

/-- The level that a text of the settings names, in letters of either case. -/
def ofSettings? (s : String) : Option Level :=
  let name := String.ofList (s.toList.map capital)
  [Level.debug, .info, .warning, .error, .critical].find? fun l => l.name == name

end Level

/-- The settings of one service provider. -/
structure ReportingSettings where
  reporterId : String
  databaseUrl : Value
  reporterIdScheme : String
  logLevel : String
  level : Level
  tsr : ReportOverrides
  eusr : ReportOverrides
  reporterId_hasText : Text.hasText reporterId = true
  reporterIdScheme_hasText : Text.hasText reporterIdScheme = true
  level_eq : Level.ofSettings? logLevel = some level

namespace ReportingSettings

/-- The replacements for a kind of report. -/
def overrides (s : ReportingSettings) : ReportKind → ReportOverrides
  | .tsr => s.tsr
  | .eusr => s.eusr

/-! ## 2. Settings of named values -/

/-- A text that must not be blank. What counts as false is refused like a blank text; any other
    value that is no text cannot be looked at. -/
def filledText (blank : Failure) (v : Value) :
    Except Failure { s : String // Text.hasText s = true } :=
  match v.asText? with
  | some s => if h : Text.hasText s = true then .ok ⟨s, h⟩ else .error blank
  | none => .error (if v.truthy then .noSuchAttribute else blank)

/-- The level that a value names. -/
def levelOf (v : Value) : Except Failure { p : String × Level // Level.ofSettings? p.1 = some p.2 } :=
  match v.asText? with
  | some s =>
    match h : Level.ofSettings? s with
    | some l => .ok ⟨(s, l), h⟩
    | none => .error .unknownLogLevel
  | none => .error .noSuchAttribute

/-- The settings with some values. -/
def make (reporterId databaseUrl reporterIdScheme logLevel : Value) (tsr eusr : ReportOverrides) :
    Except Failure ReportingSettings := do
  let ⟨reporterId, reporterId_hasText⟩ ← filledText .blankReporterId reporterId
  let ⟨reporterIdScheme, reporterIdScheme_hasText⟩ ← filledText .blankReporterScheme reporterIdScheme
  let ⟨(logLevel, level), level_eq⟩ ← levelOf logLevel
  return {
    reporterId, databaseUrl, reporterIdScheme, logLevel, level, tsr, eusr
    reporterId_hasText, reporterIdScheme_hasText, level_eq }

/-- The database of settings that name none: one in memory. -/
def defaultDatabaseUrl : Value := .text "sqlite://"

/-- The level of settings that name none. -/
def defaultLogLevel : Value := .text "INFO"

/-- The scheme of settings that name none. -/
def defaultScheme : Value := .text Identifier.serviceProviderScheme

/-- The settings with some named values; the reporter must be among them. -/
def ofFields (fields : List (String × Value)) (tsr eusr : ReportOverrides) :
    Except Failure ReportingSettings :=
  let names := ["reporter_id", "database_url", "reporter_id_scheme", "log_level"]
  if fields.all fun f => names.contains f.1 then
    match fields.lookup "reporter_id" with
    | none => .error .wrongType
    | some reporterId =>
      make reporterId ((fields.lookup "database_url").getD defaultDatabaseUrl)
        ((fields.lookup "reporter_id_scheme").getD defaultScheme)
        ((fields.lookup "log_level").getD defaultLogLevel) tsr eusr
  else .error .wrongType

/-! ## 3. Settings in sections -/

/-- The values that a value runs through, as elements of a set. -/
def elementSet (v : Value) : Except Failure (List Value) :=
  match v.elements? with
  | none => .error .wrongType
  | some vs => if Value.allHashable vs then .ok vs else .error .wrongType

/-- Refuses a section with keys that are not known. The keys that are texts are named; other keys
    cannot be. -/
def checkKeys (place : String) (part : Value) (known : List String) : Except Failure Unit := do
  let keys ← elementSet part
  let unknown := keys.filter fun k => !known.any fun n => k.same (.text n)
  if unknown.isEmpty then return ()
  else
    match unknown.mapM Value.asText? with
    | none => throw .wrongType
    | some names => throw (.unknownKeys place ((distinct names).mergeSort fun a b => a ≤ b))

/-- The value of a key that must be there. Only a dictionary has keys. -/
def required (part : Value) (key : String) : Except Failure Value :=
  match part with
  | .dict es =>
    match Value.lookup? (.text key) es with
    | some v => .ok v
    | none => .error (.missingKey key)
  | _ => .error .wrongType

/-- The value of a key that may be missing, which counts as nothing. -/
def optional (part : Value) (key : String) : Except Failure Value :=
  match part with
  | .dict es => .ok ((Value.lookup? (.text key) es).getD .null)
  | _ => .error .noSuchAttribute

/-- A section that may be missing; what counts as false is an empty section. -/
def sectionOf (data : Value) (key : String) : Except Failure Value := do
  let v ← optional data key
  return if v.truthy then v else .dict []

/-- A value if it counts as true, otherwise another. -/
def orElse (v default : Value) : Value := if v.truthy then v else default

/-- The replacements in a section. -/
def overridesOf (place : String) (v : Value) : Except Failure ReportOverrides :=
  if v.truthy then do
    checkKeys place v ["customization_id", "profile_id"]
    let customizationId ← optional v "customization_id"
    let profileId ← optional v "profile_id"
    return ⟨customizationId, profileId⟩
  else .ok {}

/-- The level of a value in a settings file, as a text. -/
def levelValue (v : Value) : Except Failure Value :=
  if v.truthy then v.toText.map .text else .ok defaultLogLevel

/-- The settings in the sections of a settings file. The reporter and the level are read as text. -/
def parse (data : Value) : Except Failure ReportingSettings := do
  checkKeys "settings" data ["reporter", "storage", "logging", "reports"]
  let reporter ← required data "reporter"
  let storage ← sectionOf data "storage"
  let logging ← sectionOf data "logging"
  let reports ← sectionOf data "reports"
  checkKeys "reports" reports ["tsr", "eusr"]
  let id ← (← required reporter "id").toText
  let scheme ← optional reporter "scheme"
  let url ← optional storage "database_url"
  let level ← levelValue (← optional logging "level")
  let tsr ← overridesOf "reports.tsr" (← optional reports "tsr")
  let eusr ← overridesOf "reports.eusr" (← optional reports "eusr")
  make (.text id) (orElse url defaultDatabaseUrl) (orElse scheme defaultScheme) level tsr eusr

/-! ## 4. Rendering and applying -/

/-- Replacements as a value. -/
def overridesValue (o : ReportOverrides) : Value :=
  .record "ReportOverrides" [("customization_id", o.customizationId), ("profile_id", o.profileId)]

/-- Settings as a value. -/
def toValue (s : ReportingSettings) : Value :=
  .record "ReportingSettings"
    [("reporter_id", .text s.reporterId), ("database_url", s.databaseUrl),
     ("reporter_id_scheme", .text s.reporterIdScheme), ("log_level", .text s.logLevel),
     ("tsr", overridesValue s.tsr), ("eusr", overridesValue s.eusr)]

/-- Applies settings to a configuration: the reporter with its scheme, and the replacements that
    count as true. -/
def applyTo (s : ReportingSettings) (o : Option ReportOverrides) (c : ReportConfiguration) :
    ReportConfiguration :=
  let c := { c with reporterId := .text s.reporterId, reporterIdScheme := .text s.reporterIdScheme }
  match o with
  | none => c
  | some o =>
    let c := if o.customizationId.truthy then { c with customizationId := o.customizationId } else c
    if o.profileId.truthy then { c with profileId := o.profileId } else c

end ReportingSettings

end PeppolStatistics
