import PeppolStatistics.Report.Basic
import PeppolStatistics.Item.Candidate

/-!
# Report configurations

What a report is made of: its identifiers, its period, the reporter, the items. Every field may be
missing until the report is built. `examine` goes through the fields in a fixed order, stops at
the first that is missing, blank or out of order, and reports one finding to whoever listens.
-/

namespace PeppolStatistics

/-! ## 1. The type -/

/-- What a report is made of. The texts are values of any kind until they are checked, the dates
    are plain calendar dates. -/
structure ReportConfiguration where
  customizationId : Value := .null
  profileId : Value := .null
  startDate : Option Date := none
  endDate : Option Date := none
  reporterIdScheme : Value := .null
  reporterId : Value := .null
  items : Value := .null

namespace ReportConfiguration

/-- The customization of the transaction statistics. -/
def tsrCustomization : String := "urn:fdc:peppol.eu:edec:trns:transaction-statistics-reporting:1.0"

/-- The customization of the end user statistics. -/
def eusrCustomization : String := "urn:fdc:peppol.eu:edec:trns:end-user-statistics-reporting:1.1"

/-- The profile of both reports. -/
def reportingProfile : String := "urn:fdc:peppol.eu:edec:bis:reporting:1.0"

/-- What a report of a kind starts with: its identifiers and the scheme of the reporter. -/
def default (kind : ReportKind) : ReportConfiguration where
  customizationId := .text (match kind with
    | .tsr => tsrCustomization
    | .eusr => eusrCustomization)
  profileId := .text reportingProfile
  reporterIdScheme := .text Identifier.serviceProviderScheme

/-- The period, unless a date is missing or the dates are out of order. -/
def period? (c : ReportConfiguration) : Option ReportPeriod :=
  match c.startDate, c.endDate with
  | some first, some last => if h : first ≤ last then some ⟨first, last, h⟩ else none
  | _, _ => none

end ReportConfiguration

/-! ## 2. Setting fields -/

/-- What can be set: every field, and both dates at once by a period or by a day of a month. -/
inductive Setter where
  | customizationId
  | profileId
  | startDate
  | endDate
  | period
  | monthOf
  | reporterIdScheme
  | reporterId
  | items
deriving DecidableEq, Repr

namespace Setter

/-- All setters. -/
def all : List Setter :=
  [.customizationId, .profileId, .startDate, .endDate, .period, .monthOf, .reporterIdScheme,
   .reporterId, .items]

/-- The name of a setter. -/
def name : Setter → String
  | .customizationId => "customization_id"
  | .profileId => "profile_id"
  | .startDate => "start_date"
  | .endDate => "end_date"
  | .period => "period"
  | .monthOf => "month_of"
  | .reporterIdScheme => "reporter_id_scheme"
  | .reporterId => "reporter_id"
  | .items => "items"

/-- The setter with a name. -/
def ofName? (s : String) : Option Setter := all.find? fun x => x.name == s

@[simp] theorem ofName?_name (x : Setter) : ofName? x.name = some x := by
  cases x <;> simp [ofName?, all, name]

end Setter

namespace ReportConfiguration

/-- The date of a value; nothing stays nothing. -/
def dateOrNone : Value → Except Failure (Option Date)
  | .null => .ok none
  | v => v.calendarDate.map some

/-- The configuration with both dates set to the ends of a period. -/
def withPeriod (c : ReportConfiguration) : Option ReportPeriod → ReportConfiguration
  | none => { c with startDate := none, endDate := none }
  | some p => { c with startDate := some p.first, endDate := some p.last }

/-- What `items` is set to: a collection stays as it is, other values are run through. -/
def itemsOf : Value → Except Failure Value
  | .null => .ok .null
  | .collection c => .ok (.collection c)
  | v => (Collection.ofValue v).map .collection

/-- The configuration with one more thing set; nothing clears. -/
def set (c : ReportConfiguration) (s : Setter) (v : Value) : Except Failure ReportConfiguration :=
  match s with
  | .customizationId => .ok { c with customizationId := v }
  | .profileId => .ok { c with profileId := v }
  | .startDate => (dateOrNone v).map fun d => { c with startDate := d }
  | .endDate => (dateOrNone v).map fun d => { c with endDate := d }
  | .period =>
    match v with
    | .null => .ok (c.withPeriod none)
    | .period p => .ok (c.withPeriod (some p))
    | _ => .error .noSuchAttribute
  | .monthOf =>
    match v with
    | .null => .ok (c.withPeriod none)
    | v => v.calendarMonth.map fun p => c.withPeriod (some p)
  | .reporterIdScheme => .ok { c with reporterIdScheme := v }
  | .reporterId => .ok { c with reporterId := v }
  | .items => (itemsOf v).map fun i => { c with items := i }

/-- The names of the fields. -/
def fieldNames : List String :=
  ["customization_id", "profile_id", "start_date", "end_date", "reporter_id_scheme", "reporter_id",
   "items"]

/-- The configuration with some named fields; the dates are reduced to calendar dates, the items
    are taken as they are. -/
def ofFields (fields : List (String × Value)) : Except Failure ReportConfiguration := do
  let value (n : String) : Value := (fields.lookup n).getD .null
  if fields.all fun f => fieldNames.contains f.1 then
    let startDate ← dateOrNone (value "start_date")
    let endDate ← dateOrNone (value "end_date")
    return {
      customizationId := value "customization_id"
      profileId := value "profile_id"
      startDate, endDate
      reporterIdScheme := value "reporter_id_scheme"
      reporterId := value "reporter_id"
      items := value "items" }
  else throw .wrongType

/-! ## 3. Completeness -/

end ReportConfiguration

/-- What the examination of a configuration finds: the first field that is not filled, or that
    all are. -/
inductive Finding where
  | missing (field : RequiredField)
  | complete
deriving DecidableEq, Repr

namespace Finding

/-- The message of a finding. -/
def message : Finding → String
  | .missing .period => "start_date_after_end_date"
  | .missing .items => "reporting_items_missing"
  | .missing f => f.name ++ "_missing"
  | .complete => "report_configuration_complete"

/-- The further fields of a finding. -/
def extra : Finding → List (String × Value)
  | .missing f => [("missing_field", .text f.name)]
  | .complete => []

end Finding

namespace ReportConfiguration

/-- Goes through the fields in order. The answer is the first one that is not filled; if someone
    listens, there is one finding. -/
def examine (c : ReportConfiguration) (listening : Bool) : Option RequiredField × List Finding :=
  let fail (f : RequiredField) : Option RequiredField × List Finding :=
    (some f, if listening then [.missing f] else [])
  if !c.customizationId.hasText then fail .customizationId
  else if !c.profileId.hasText then fail .profileId
  else match c.startDate with
    | none => fail .startDate
    | some first =>
      match c.endDate with
      | none => fail .endDate
      | some last =>
        if last < first then fail .period
        else if !c.reporterIdScheme.hasText then fail .reporterIdScheme
        else if !c.reporterId.hasText then fail .reporterId
        else if c.items.isNull then fail .items
        else (none, if listening then [.complete] else [])

/-- The first field that is not filled. -/
def firstIncomplete? (c : ReportConfiguration) : Option RequiredField := (c.examine false).1

/-- Whether all fields are filled. -/
def isComplete (c : ReportConfiguration) : Bool := c.firstIncomplete?.isNone

end ReportConfiguration

end PeppolStatistics
