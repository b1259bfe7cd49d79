import PeppolStatistics.Proofs.Checks
import PeppolStatistics.Settings.Basic

/-!
# The parts of settings

Settings are read part by part, and each part may fail. `SettingsParts.ReadFrom` lists the steps by
which the parts come out of a value of any kind; where settings come out, there are parts that make
them (`SettingsParts.exists_readFrom`).
-/

namespace PeppolStatistics

/-- What is read of a value on the way to settings. -/
structure SettingsParts where
  reporter : Value
  storage : Value
  logging : Value
  reports : Value
  id : Value
  idText : String
  scheme : Value
  url : Value
  level : Value
  levelText : Value
  tsrPart : Value
  tsr : ReportOverrides
  eusrPart : Value
  eusr : ReportOverrides

namespace SettingsParts

open ReportingSettings

/-- The settings that the parts make. -/
def settings (p : SettingsParts) : Except Failure ReportingSettings :=
  make (.text p.idText) (orElse p.url defaultDatabaseUrl) (orElse p.scheme defaultScheme)
    p.levelText p.tsr p.eusr

/-- The steps by which the parts are read. -/
structure ReadFrom (p : SettingsParts) (data : Value) : Prop where
  keys : checkKeys "settings" data ["reporter", "storage", "logging", "reports"] = .ok ()
  reporter : required data "reporter" = .ok p.reporter
  storage : sectionOf data "storage" = .ok p.storage
  logging : sectionOf data "logging" = .ok p.logging
  reports : sectionOf data "reports" = .ok p.reports
  reportKeys : checkKeys "reports" p.reports ["tsr", "eusr"] = .ok ()
  id : required p.reporter "id" = .ok p.id
  idText : p.id.toText = .ok p.idText
  scheme : optional p.reporter "scheme" = .ok p.scheme
  url : optional p.storage "database_url" = .ok p.url
  level : optional p.logging "level" = .ok p.level
  levelText : levelValue p.level = .ok p.levelText
  tsrPart : optional p.reports "tsr" = .ok p.tsrPart
  tsr : overridesOf "reports.tsr" p.tsrPart = .ok p.tsr
  eusrPart : optional p.reports "eusr" = .ok p.eusrPart
  eusr : overridesOf "reports.eusr" p.eusrPart = .ok p.eusr

/-- **Settings are made of parts.** -/
theorem exists_readFrom {data : Value} {s : ReportingSettings} (h : parse data = .ok s) :
    ∃ p : SettingsParts, p.ReadFrom data ∧ p.settings = .ok s := by
  obtain ⟨_, hkeys, h⟩ := bind_eq_ok.mp h
  obtain ⟨reporter, hreporter, h⟩ := bind_eq_ok.mp h
  obtain ⟨storage, hstorage, h⟩ := bind_eq_ok.mp h
  obtain ⟨logging, hlogging, h⟩ := bind_eq_ok.mp h
  obtain ⟨reports, hreports, h⟩ := bind_eq_ok.mp h
  obtain ⟨_, hreportKeys, h⟩ := bind_eq_ok.mp h
  obtain ⟨id, hid, h⟩ := bind_eq_ok.mp h
  obtain ⟨idText, hidText, h⟩ := bind_eq_ok.mp h
  obtain ⟨scheme, hscheme, h⟩ := bind_eq_ok.mp h
  obtain ⟨url, hurl, h⟩ := bind_eq_ok.mp h
  obtain ⟨level, hlevel, h⟩ := bind_eq_ok.mp h
  obtain ⟨levelText, hlevelText, h⟩ := bind_eq_ok.mp h
  obtain ⟨tsrPart, htsrPart, h⟩ := bind_eq_ok.mp h
  obtain ⟨tsr, htsr, h⟩ := bind_eq_ok.mp h
  obtain ⟨eusrPart, heusrPart, h⟩ := bind_eq_ok.mp h
  obtain ⟨eusr, heusr, hmake⟩ := bind_eq_ok.mp h
  exact ⟨⟨reporter, storage, logging, reports, id, idText, scheme, url, level, levelText, tsrPart,
    tsr, eusrPart, eusr⟩, ⟨hkeys, hreporter, hstorage, hlogging, hreports, hreportKeys, hid,
    hidText, hscheme, hurl, hlevel, hlevelText, htsrPart, htsr, heusrPart, heusr⟩, hmake⟩

end SettingsParts

end PeppolStatistics
