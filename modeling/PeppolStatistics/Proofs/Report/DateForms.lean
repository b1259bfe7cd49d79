import PeppolStatistics.Proofs.Report.Setters

/-!
# The forms of a day

The day of a point in time can be given in four forms: the point itself, its text, its date, and
the text of its date. They are told apart by their kind and by the letter `T`, and read by two
readers; none of them looks at the offset.

* `DateTime.standsFor_of_mem_dayForms`: each form stands for the day on the point's own clock;
* `ReportConfiguration.set_startDate_of_standsFor` and its siblings: what the setters of dates make
  of a value that stands for a day;
* `DateTime.dayForms_agree`: the four forms cannot be told apart by what is made of them.
-/

namespace PeppolStatistics

/-! ## 1. The forms -/

/-- The forms in which the day of a point in time can be given. -/
def DateTime.dayForms (t : DateTime) : List Value :=
  [.dateTime t, .text t.iso, .date t.date, .text t.date.iso]

/-- **Each form stands for the day** on the point's own clock, whatever its offset. -/
theorem DateTime.standsFor_of_mem_dayForms {t : DateTime} {v : Value} (h : v ∈ t.dayForms) :
    v.StandsFor t.date := by
  unfold dayForms at h
  simp only [List.mem_cons, List.not_mem_nil, or_false] at h
  rcases h with rfl | rfl | rfl | rfl
  · exact .dateTime t
  · exact Value.standsFor_dateTimeIso t
  · exact .date t.date
  · exact Value.standsFor_dateIso t.date

/-! ## 2. What is made of a value that stands for a day -/

theorem Value.calendarMonth_of_standsFor {v : Value} {d : Date} (h : v.StandsFor d) :
    v.calendarMonth = .ok (.monthOf d) := by
  unfold calendarMonth
  rw [calendarDate_eq_ok_iff.mpr h]
  rfl

namespace ReportConfiguration

variable {v : Value} {d : Date}

theorem dateOrNone_of_standsFor (h : v.StandsFor d) : dateOrNone v = .ok (some d) :=
  dateOrNone_eq_ok_iff.mpr (Or.inr ⟨d, h, rfl⟩)

theorem set_startDate_of_standsFor (c : ReportConfiguration) (h : v.StandsFor d) :
    c.set .startDate v = .ok { c with startDate := some d } := by
  unfold set
  rw [dateOrNone_of_standsFor h]
  rfl

theorem set_endDate_of_standsFor (c : ReportConfiguration) (h : v.StandsFor d) :
    c.set .endDate v = .ok { c with endDate := some d } := by
  unfold set
  rw [dateOrNone_of_standsFor h]
  rfl

end ReportConfiguration

/-! ## 3. The forms agree -/

/-- **The four forms of a day agree.** Whatever offset a point in time has, none at all included,
    and however its seconds and those of its offset are split: each form is reduced to the date on
    the point's own clock, its month is the month of this date, and the start, the end and the
    month of a report are set to the same by all of them. -/
theorem DateTime.dayForms_agree (t : DateTime) {v : Value} (h : v ∈ t.dayForms) :
    v.calendarDate = .ok t.date ∧
    v.calendarMonth = .ok (.monthOf t.date) ∧
    ∀ c : ReportConfiguration,
      c.set .startDate v = .ok { c with startDate := some t.date } ∧
      c.set .endDate v = .ok { c with endDate := some t.date } ∧
      c.set .monthOf v =
        .ok { c with startDate := some t.date.firstOf, endDate := some t.date.lastOf } := by
  have hday := standsFor_of_mem_dayForms h
  refine ⟨Value.calendarDate_eq_ok_iff.mpr hday, Value.calendarMonth_of_standsFor hday, fun c => ?_⟩
  exact ⟨c.set_startDate_of_standsFor hday, c.set_endDate_of_standsFor hday,
    c.set_monthOf_of_standsFor hday⟩

/-- Just before midnight on a leap day, by a clock that is almost a day behind universal time. -/
def lateOnLeapDay : DateTime where
  date := (Date.ofParts? 2024 2 29).get (by decide)
  time := (TimeOfDay.ofParts? 23 59 59 999999).get (by decide)
  offset := UtcOffset.ofMicros? (-86399999999)

/-- Universal time is already in March; the text, fractions of a second and all, still stands for
    the leap day, and the report covers February. -/
theorem dayForms_agree_lateOnLeapDay :
    (DateTime.utcClock? lateOnLeapDay.date lateOnLeapDay.time
      ⟨-86399999999, by decide, by decide⟩).map (fun clock => clock.1.iso) = some "2024-03-01" ∧
    lateOnLeapDay.iso = "2024-02-29T23:59:59.999999-23:59:59.999999" ∧
    .text lateOnLeapDay.iso ∈ lateOnLeapDay.dayForms ∧
    (Value.text lateOnLeapDay.iso).calendarDate = .ok lateOnLeapDay.date ∧
    ReportConfiguration.set {} .monthOf (.text lateOnLeapDay.iso) =
      .ok { startDate := some lateOnLeapDay.date.firstOf, endDate := some lateOnLeapDay.date } := by
  have hmem : .text lateOnLeapDay.iso ∈ lateOnLeapDay.dayForms :=
    List.mem_cons_of_mem _ List.mem_cons_self
  obtain ⟨hdate, _, hset⟩ := lateOnLeapDay.dayForms_agree hmem
  exact ⟨by decide, by decide, hmem, hdate, (hset {}).2.2⟩

end PeppolStatistics
