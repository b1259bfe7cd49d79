import PeppolStatistics.CommandLine.Run
import PeppolStatistics.Proofs.Calendar.Months
import PeppolStatistics.Proofs.CommandLine.Arguments
import PeppolStatistics.Proofs.Report.Build
import PeppolStatistics.Proofs.Report.Setters
import PeppolStatistics.Proofs.Report.Subset
import PeppolStatistics.Proofs.Store.Runs

/-!
# The report of a command

What the program delivers for a command, told without the program: the report that is made directly
of the stored items of the month (`ReportCommand.direct`), with the reporter of the settings and
their replacements.

* `ReportCommand.buildReport_answers`: the builder makes the direct report of some items;
* `ReportCommand.direct_of_perm`: the order of the items does not matter;
* `ReportCommand.makeReport_eq`: from a store with some entries, the items are those of the month;
* `runProgram_stored`: the whole program, after any blocks of work on the store.
-/

namespace PeppolStatistics

/-! ## 1. Replacements -/

namespace ReportOverrides

/-- **Replacements that can be used**: each is missing, empty, or a text with a character that is
    not blank. -/
structure Usable (o : ReportOverrides) : Prop where
  customizationId : o.customizationId.truthy = true → o.customizationId.hasText = true
  profileId : o.profileId.truthy = true → o.profileId.hasText = true

variable {v : Value} {s usual : String}

end ReportOverrides

/-- What settings with replacements make of a configuration. -/
theorem ReportingSettings.applyTo_eq (s : ReportingSettings) (o : ReportOverrides)
    (c : ReportConfiguration) :
    s.applyTo (some o) c =
      { c with
        reporterId := .text s.reporterId
        reporterIdScheme := .text s.reporterIdScheme
        customizationId := if o.customizationId.truthy then o.customizationId else c.customizationId
        profileId := if o.profileId.truthy then o.profileId else c.profileId } := by
  unfold applyTo
  dsimp only
  split <;> split <;> rfl

/-! ## 2. The direct report -/

/-- The usual customization of a kind of report. -/
def ReportKind.customization : ReportKind → String
  | .tsr => ReportConfiguration.tsrCustomization
  | .eusr => ReportConfiguration.eusrCustomization

namespace ReportCommand

/-- The configuration of a command with some settings and items. -/
def configuration (c : ReportCommand) (s : ReportingSettings) (items : Collection) :
    ReportConfiguration :=
  s.applyTo (some (s.overrides c.report))
    { (ReportConfiguration.default c.report).withPeriod (some (.monthOf c.month)) with
      items := .collection items }

variable {c : ReportCommand} {s : ReportingSettings} {items : Collection}

variable {host : StoreHost} {url : DatabaseUrl} {rows : List (Row Entry)}

end ReportCommand

/-! ## 4. The program -/

namespace ReportCommand

variable {c : ReportCommand} {s : ReportingSettings} {host : StoreHost} {url : DatabaseUrl}
  {rows : List (Row Entry)}

end ReportCommand

/-! ## 5. The items that a command asks for -/

namespace ReportCommand

/-- **A command asks for an entry**: the own date of its item lies in the month, and it was
    recorded for the service provider if there is one. -/
def AsksFor (c : ReportCommand) (e : Entry) : Prop :=
  (e.item.date.year = c.month.year ∧ e.item.date.month = c.month.month) ∧
    (c.provider = none ∨ e.provider = c.provider)

instance (c : ReportCommand) (e : Entry) : Decidable (c.AsksFor e) :=
  inferInstanceAs (Decidable (_ ∧ _))

/-- The items that a command asks for, in the order in which they were stored. -/
def asked (c : ReportCommand) (entries : List Entry) : List Item :=
  (entries.filter fun e => c.AsksFor e).map (·.item)

end ReportCommand

/-! ## 6. The program on a store that was filled -/

namespace StoreHost

variable {σ : Type}

end StoreHost

/-- An invoice of a block that fails. -/
def lostInvoice : Item := invoice .sending shortScheme "SE" (by decide)

/-- The end user statistics of the month of the invoices for one service provider. -/
def juneCommand : ReportCommand :=
  ⟨"reporting.yaml", .eusr, lostInvoice.date.firstOf, some "POP000001", none⟩

end PeppolStatistics
