import PeppolStatistics.Report.Configuration

/-!
# What is missing in a configuration

A configuration is examined field by field. `Unfilled` says of each field on its own when it is
not filled.

* `examine_eq`: the answer is the first field in the order of `RequiredField.all` that is not
  filled, and whoever listens hears one finding, which is about this field;
* `firstIncomplete?_eq_some_iff`: the first field that is not filled, said without the search;
* `firstIncomplete?_eq_none_iff`: a configuration is complete exactly if nothing is missing
  (`Filled`).
-/

namespace PeppolStatistics

/-! ## 1. Fields that are not filled -/

/-- A value that is no text, or a text of blanks only. -/
def Value.Blank (v : Value) : Prop := ∀ s, v.asText? = some s → ∀ c ∈ s.toList, isBlank c = true

theorem Value.blank_iff {v : Value} : v.Blank ↔ v.hasText = false := by
  rw [Blank, hasText]
  cases v.asText? with
  | none => simp
  | some s => simp [Text.hasText]

/-- The fields that must be filled, in the order in which they are checked. -/
def RequiredField.all : List RequiredField :=
  [.customizationId, .profileId, .startDate, .endDate, .period, .reporterIdScheme, .reporterId,
   .items]

/-- The finding about the first field that is not filled, if there is one. -/
def Finding.about : Option RequiredField → Finding
  | none => .complete
  | some f => .missing f

namespace ReportConfiguration

variable {c : ReportConfiguration} {f : RequiredField}

/-- **A field is not filled**: a text is missing or blank, a date is missing, the end lies before
    the start, there are no items. -/
def Unfilled (c : ReportConfiguration) : RequiredField → Prop
  | .customizationId => c.customizationId.Blank
  | .profileId => c.profileId.Blank
  | .startDate => c.startDate = none
  | .endDate => c.endDate = none
  | .period => ∃ first last, c.startDate = some first ∧ c.endDate = some last ∧ last < first
  | .reporterIdScheme => c.reporterIdScheme.Blank
  | .reporterId => c.reporterId.Blank
  | .items => c.items = .null

/-- The first field that is not filled: all before it are. -/
def FirstUnfilled (c : ReportConfiguration) (f : RequiredField) : Prop :=
  c.Unfilled f ∧ ∃ before after, RequiredField.all = before ++ f :: after ∧
    ∀ g ∈ before, ¬ c.Unfilled g

/-- The test of one field. -/
def lacks (c : ReportConfiguration) : RequiredField → Bool
  | .customizationId => !c.customizationId.hasText
  | .profileId => !c.profileId.hasText
  | .startDate => c.startDate.isNone
  | .endDate => c.endDate.isNone
  | .period => c.startDate.any fun first => c.endDate.any fun last => last < first
  | .reporterIdScheme => !c.reporterIdScheme.hasText
  | .reporterId => !c.reporterId.hasText
  | .items => c.items.isNull

theorem lacks_iff : c.lacks f = true ↔ c.Unfilled f := by
  cases f with
  | customizationId | profileId | reporterIdScheme | reporterId =>
    rw [lacks, Unfilled, Value.blank_iff, Bool.not_eq_true']
  | startDate | endDate => rw [lacks, Unfilled, Option.isNone_iff_eq_none]
  | period =>
    rw [lacks, Unfilled]
    cases c.startDate <;> cases c.endDate <;> simp
  | items =>
    rw [lacks, Unfilled]
    cases c.items <;> simp [Value.isNull]

/-! ## 2. The examination -/

/-- **The fields are gone through in their order** up to the first that is not filled, and there is
    one finding for whoever listens. -/
theorem examine_eq_find? (c : ReportConfiguration) (listening : Bool) :
    c.examine listening =
      (RequiredField.all.find? c.lacks,
        if listening then [Finding.about (RequiredField.all.find? c.lacks)] else []) := by
  unfold examine
  simp only [RequiredField.all, List.find?_cons, lacks]
  cases c.customizationId.hasText with
  | false => rfl
  | true =>
  cases c.profileId.hasText with
  | false => rfl
  | true =>
  cases c.startDate with
  | none => rfl
  | some first =>
  cases c.endDate with
  | none => rfl
  | some last =>
  by_cases hordered : last < first
  · simp [hordered, Finding.about]
  · cases c.reporterIdScheme.hasText <;> cases c.reporterId.hasText <;> cases c.items.isNull <;>
      simp [hordered, Finding.about]

theorem firstIncomplete?_eq_find? (c : ReportConfiguration) :
    c.firstIncomplete? = RequiredField.all.find? c.lacks := by
  rw [firstIncomplete?, examine_eq_find?]

/-- **Whether anyone listens does not change the answer**, and whoever listens hears one finding,
    which is about the answer. -/
theorem examine_eq (c : ReportConfiguration) (listening : Bool) :
    c.examine listening =
      (c.firstIncomplete?, if listening then [Finding.about c.firstIncomplete?] else []) := by
  rw [firstIncomplete?_eq_find?, examine_eq_find?]

/-- **The first field that is not filled.** -/
theorem firstIncomplete?_eq_some_iff : c.firstIncomplete? = some f ↔ c.FirstUnfilled f := by
  rw [firstIncomplete?_eq_find?, List.find?_eq_some_iff_append, FirstUnfilled, lacks_iff]
  simp only [Bool.not_eq_true', ← Bool.not_eq_true, lacks_iff]

theorem firstIncomplete?_eq_none : c.firstIncomplete? = none ↔ ∀ f, ¬ c.Unfilled f := by
  rw [firstIncomplete?_eq_find?, List.find?_eq_none]
  simp only [lacks_iff]
  have hall (f : RequiredField) : f ∈ RequiredField.all := by cases f <;> decide
  exact ⟨fun h f => h f (hall f), fun h f _ => h f⟩

/-! ## 3. Complete configurations -/

theorem period?_eq_some_iff {c : ReportConfiguration} {p : ReportPeriod} :
    c.period? = some p ↔ c.startDate = some p.first ∧ c.endDate = some p.last := by
  rw [period?]
  constructor
  · intro h
    split at h
    · rename_i first last hstart hend
      split at h
      · cases h
        exact ⟨hstart, hend⟩
      · cases h
    · cases h
  · rintro ⟨hstart, hend⟩
    rw [hstart, hend]
    exact dif_pos p.ordered

/-- A configuration in which nothing is missing. -/
structure Filled (c : ReportConfiguration) : Prop where
  customizationId : c.customizationId.hasText = true
  profileId : c.profileId.hasText = true
  period : ∃ p, c.period? = some p
  reporterIdScheme : c.reporterIdScheme.hasText = true
  reporterId : c.reporterId.hasText = true
  items : c.items.isNull = false

/-- Dates that are there and in order are those of a period. -/
theorem exists_period (hstart : ¬ c.Unfilled .startDate) (hend : ¬ c.Unfilled .endDate)
    (hperiod : ¬ c.Unfilled .period) : ∃ p, c.period? = some p := by
  obtain ⟨first, hfirst⟩ := Option.ne_none_iff_exists'.mp hstart
  obtain ⟨last, hlast⟩ := Option.ne_none_iff_exists'.mp hend
  have hordered : first ≤ last := fun h => hperiod ⟨first, last, hfirst, hlast, h⟩
  exact ⟨⟨first, last, hordered⟩, period?_eq_some_iff.mpr ⟨hfirst, hlast⟩⟩

/-- **A configuration is complete** exactly if nothing is missing in it. -/
theorem firstIncomplete?_eq_none_iff {c : ReportConfiguration} :
    c.firstIncomplete? = none ↔ c.Filled := by
  constructor
  · intro h
    have hunfilled := firstIncomplete?_eq_none.mp h
    have hlacks (f : RequiredField) : c.lacks f = false :=
      Bool.eq_false_iff.mpr (mt lacks_iff.mp (hunfilled f))
    exact
      { customizationId := by simpa [lacks] using hlacks .customizationId
        profileId := by simpa [lacks] using hlacks .profileId
        period := exists_period (hunfilled .startDate) (hunfilled .endDate) (hunfilled .period)
        reporterIdScheme := by simpa [lacks] using hlacks .reporterIdScheme
        reporterId := by simpa [lacks] using hlacks .reporterId
        items := hlacks .items }
  · rintro ⟨hcustomization, hprofile, ⟨p, hperiod⟩, hscheme, hreporter, hitems⟩
    obtain ⟨hstart, hend⟩ := period?_eq_some_iff.mp hperiod
    have hordered : ¬ p.last < p.first := p.ordered
    rw [firstIncomplete?_eq_find?, List.find?_eq_none]
    intro f _
    cases f <;> simp [lacks, *]

end ReportConfiguration

end PeppolStatistics
