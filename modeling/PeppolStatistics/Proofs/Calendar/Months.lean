import Mathlib.Data.Set.Card
import Mathlib.Order.Interval.Finset.Nat
import PeppolStatistics.Proofs.Calendar.Iso
import PeppolStatistics.Proofs.Calendar.Ordinal
import PeppolStatistics.Value.Dates

/-!
# Months and periods

The calendar months divide the dates among themselves.

* `mem_monthOf`: a date lies in the month of another exactly if year and month agree;
* `forMonth_cases`: the three ends of asking for a month by number, with `firstOfMonth_cases` for
  its first day;
* `next?_lastOf`: the day after the last of a month is the first of the following one;
* `ncard_dates`: a period has as many days as there are dates in it;
* `months_divide_dates`: all of it together, for every year, month and date.
-/

namespace PeppolStatistics

namespace ReportPeriod

/-! ## 1. Dates of a month -/

/-- A date lies in the month of another exactly if year and month agree. -/
theorem mem_monthOf {d m : Date} :
    ((monthOf m).first ≤ d ∧ d ≤ (monthOf m).last) ↔ d.year = m.year ∧ d.month = m.month := by
  have hday := d.day_mem
  show ¬ d.Before m.firstOf ∧ ¬ m.lastOf.Before d ↔ _
  unfold Date.Before Date.firstOf Date.lastOf
  constructor
  · rintro ⟨hfirst, hlast⟩
    dsimp only at hfirst hlast
    omega
  · rintro ⟨hyear, hmonth⟩
    rw [hyear, hmonth] at hday
    dsimp only
    omega

theorem contains_iff {p : ReportPeriod} {d : Date} :
    p.contains d = true ↔ p.first ≤ d ∧ d ≤ p.last := by
  rw [contains, Bool.and_eq_true, decide_eq_true_eq, decide_eq_true_eq]

theorem contains_monthOf {d m : Date} :
    (monthOf m).contains d = true ↔ d.year = m.year ∧ d.month = m.month :=
  contains_iff.trans mem_monthOf

/-- A month is known by its year and number. -/
theorem monthOf_congr {d e : Date} (hyear : d.year = e.year) (hmonth : d.month = e.month) :
    monthOf d = monthOf e := by
  have hfirst : d.firstOf = e.firstOf := Date.eq_of_parts hyear hmonth rfl
  have hlast : d.lastOf = e.lastOf := Date.eq_of_parts hyear hmonth (by
    show daysInMonth d.year d.month = daysInMonth e.year e.month
    rw [hyear, hmonth])
  simp only [monthOf, hfirst, hlast]

/-! ## 2. Months by number -/

/-- A number that fits a machine word. -/
def InWord (n : Int) : Prop := -wordLimit ≤ n ∧ n < wordLimit

instance (n : Int) : Decidable (InWord n) := inferInstanceAs (Decidable (_ ∧ _))

/-- The year and the month are numbers of the calendar. -/
def InCalendar (year month : Int) : Prop := (1 ≤ year ∧ year ≤ 9999) ∧ 1 ≤ month ∧ month ≤ 12

instance (year month : Int) : Decidable (InCalendar year month) :=
  inferInstanceAs (Decidable (_ ∧ _))

variable {year month : Int}

theorem InCalendar.inWord (h : InCalendar year month) : InWord year ∧ InWord month := by
  obtain ⟨hyear, hmonth⟩ := h
  rw [InWord, InWord, wordLimit]
  omega

theorem inCalendar_date (d : Date) : InCalendar d.year d.month := by
  have hyear := d.year_mem
  have hmonth := d.month_mem
  rw [InCalendar]
  omega

/-- Numbers of the calendar are those of a date. -/
theorem InCalendar.exists_date (h : InCalendar year month) :
    ∃ d : Date, (d.year : Int) = year ∧ (d.month : Int) = month := by
  obtain ⟨hyear, hmonth⟩ := h
  have hday := le_daysInMonth (y := year.toNat) (m := month.toNat) (by omega)
  refine ⟨⟨year.toNat, month.toNat, 1, by omega, by omega, by omega⟩, ?_, ?_⟩
  · exact Int.toNat_of_nonneg (by omega)
  · exact Int.toNat_of_nonneg (by omega)

theorem firstOfMonth_overflow (h : ¬ (InWord year ∧ InWord month)) :
    firstOfMonth year month = .error .overflow := by
  rw [InWord, InWord] at h
  rw [firstOfMonth]
  exact if_pos (by simp only [Bool.or_eq_true, decide_eq_true_eq]; omega)

theorem firstOfMonth_inWord (h : InWord year ∧ InWord month) :
    firstOfMonth year month =
      if year < 1 ∨ 9999 < year then .error (.dateText (.yearOutOfRange year))
      else (Date.ofParts year.toNat month.toNat 1).mapError .dateText := by
  rw [InWord, InWord] at h
  rw [firstOfMonth, if_neg (by simp only [Bool.or_eq_true, decide_eq_true_eq]; omega)]
  cases Date.ofParts year.toNat month.toNat 1 with
  | ok d => simp [Except.mapError]
  | error e => simp [Except.mapError]

theorem firstOfMonth_date (d : Date) : firstOfMonth d.year d.month = .ok d.firstOf := by
  have hcalendar := inCalendar_date d
  have hrange : ¬ ((d.year : Int) < 1 ∨ 9999 < (d.year : Int)) := by
    have := hcalendar.1
    omega
  have hparts : Date.ofParts d.year d.month 1 = .ok d.firstOf := Iso.ofParts_date d.firstOf
  rw [firstOfMonth_inWord hcalendar.inWord, if_neg hrange, Int.toNat_natCast, Int.toNat_natCast,
    hparts]
  rfl

/-- **The first day of a month by number**: numbers beyond a machine word are an overflow, other
    numbers that are none of the calendar are named as dates are, and the rest have a first day. -/
theorem firstOfMonth_cases (year month : Int) :
    (¬ (InWord year ∧ InWord month) ∧ firstOfMonth year month = .error .overflow) ∨
    ((InWord year ∧ InWord month) ∧ ¬ InCalendar year month ∧
      ∃ e, firstOfMonth year month = .error (.dateText e)) ∨
    ∃ d : Date, (d.year : Int) = year ∧ (d.month : Int) = month ∧
      firstOfMonth year month = .ok d.firstOf := by
  by_cases hword : InWord year ∧ InWord month
  · by_cases hcalendar : InCalendar year month
    · obtain ⟨d, rfl, rfl⟩ := hcalendar.exists_date
      exact .inr (.inr ⟨d, rfl, rfl, firstOfMonth_date d⟩)
    · refine .inr (.inl ⟨hword, hcalendar, ?_⟩)
      rw [firstOfMonth_inWord hword]
      split
      · exact ⟨_, rfl⟩
      · rename_i hyear
        have hmonth : ¬ (1 ≤ month.toNat ∧ month.toNat ≤ 12) := by
          rw [InCalendar] at hcalendar
          omega
        rw [Date.ofParts, dif_pos (by omega), dif_neg hmonth]
        exact ⟨_, rfl⟩
  · exact .inl ⟨hword, firstOfMonth_overflow hword⟩

/-- The failure for a year that is none of the calendar. -/
def yearFailure (year : Int) : Failure :=
  if InWord year then .dateText (.yearOutOfRange year) else .overflow

/-- **A month by number**: the number of the month is looked at first, then that of the year. -/
theorem forMonth_cases (year month : Int) :
    (¬ (1 ≤ month ∧ month ≤ 12) ∧ forMonth year month = .error (.illegalMonth month)) ∨
    ((1 ≤ month ∧ month ≤ 12) ∧ ¬ (1 ≤ year ∧ year ≤ 9999) ∧
      forMonth year month = .error (yearFailure year)) ∨
    ∃ d : Date, (d.year : Int) = year ∧ (d.month : Int) = month ∧
      forMonth year month = .ok (monthOf d) := by
  by_cases hmonth : 1 ≤ month ∧ month ≤ 12
  · have hmonthWord : InWord month := by
      rw [InWord, wordLimit]
      omega
    rw [forMonth, if_pos hmonth]
    by_cases hyear : 1 ≤ year ∧ year ≤ 9999
    · obtain ⟨d, rfl, rfl⟩ := InCalendar.exists_date ⟨hyear, hmonth⟩
      refine .inr (.inr ⟨d, rfl, rfl, ?_⟩)
      rw [firstOfMonth_date]
      exact congrArg Except.ok (monthOf_congr rfl rfl)
    · refine .inr (.inl ⟨hmonth, hyear, ?_⟩)
      rw [yearFailure]
      split
      · rename_i hword
        rw [firstOfMonth_inWord ⟨hword, hmonthWord⟩, if_pos (by omega)]
        rfl
      · rename_i hword
        rw [firstOfMonth_overflow fun h => hword h.1]
        rfl
  · exact .inl ⟨hmonth, if_neg hmonth⟩

/-- **The months by number are the months of the dates.** -/
theorem forMonth_eq_ok_iff {p : ReportPeriod} :
    forMonth year month = .ok p ↔
      ∃ d : Date, (d.year : Int) = year ∧ (d.month : Int) = month ∧ p = monthOf d := by
  constructor
  · intro h
    rcases forMonth_cases year month with ⟨_, herror⟩ | ⟨_, _, herror⟩ | ⟨d, hyear, hmonth, hok⟩
    · rw [herror] at h
      cases h
    · rw [herror] at h
      cases h
    · exact ⟨d, hyear, hmonth, Except.ok.inj (h.symm.trans hok)⟩
  · rintro ⟨d, rfl, rfl, rfl⟩
    rw [forMonth, if_pos (inCalendar_date d).2, firstOfMonth_date]
    exact congrArg Except.ok (monthOf_congr rfl rfl)

/-! ## 3. One month after the other -/

/-- Year and number of the month that follows a month. -/
def following (year month : Int) : Int × Int :=
  if month = 12 then (year + 1, 1) else (year, month + 1)

/-- **The day after the last of a month** is the first of the following month. -/
theorem next?_lastOf {d e : Date} (h : following d.year d.month = (↑e.year, ↑e.month)) :
    d.lastOf.next? = some e.firstOf := by
  have hmonth := d.month_mem
  have hfirst : Date.ofParts? e.year e.month 1 = some e.firstOf := Date.ofParts?_self e.firstOf
  have hlast : ¬ d.lastOf.day < daysInMonth d.lastOf.year d.lastOf.month := Nat.lt_irrefl _
  rw [Date.next?, if_neg hlast]
  show (if d.month < 12 then Date.ofParts? d.year (d.month + 1) 1
    else Date.ofParts? (d.year + 1) 1 1) = some e.firstOf
  rw [following] at h
  split at h
  · obtain ⟨hyear, hjanuary⟩ := Prod.mk.inj h
    rw [if_neg (by omega), ← hfirst, ← show d.year + 1 = e.year by omega,
      ← show 1 = e.month by omega]
  · obtain ⟨hyear, hnext⟩ := Prod.mk.inj h
    rw [if_pos (by omega), ← hfirst, ← show d.year = e.year by omega,
      ← show d.month + 1 = e.month by omega]

/-! ## 4. Counting the days of a period -/

theorem ordinal_first_le_last (p : ReportPeriod) : p.first.ordinal ≤ p.last.ordinal :=
  Date.ordinal_le_iff.mpr p.ordered

/-- The numbers of the dates of a period. -/
theorem image_ordinal (p : ReportPeriod) :
    Date.ordinal '' {d | p.contains d = true} =
      ↑(Finset.Icc p.first.ordinal p.last.ordinal) := by
  ext n
  simp only [Set.mem_image, Set.mem_ofPred_eq, contains_iff, ← Date.ordinal_le_iff, Finset.coe_Icc,
    Set.mem_Icc]
  constructor
  · rintro ⟨d, hd, rfl⟩
    exact hd
  · rintro ⟨hfirst, hlast⟩
    obtain ⟨d, rfl⟩ := p.first.exists_ordinal hfirst (hlast.trans p.last.ordinal_le_last)
    exact ⟨d, ⟨hfirst, hlast⟩, rfl⟩

/-- **A period has as many days as there are dates in it.** -/
theorem ncard_dates (p : ReportPeriod) : {d | p.contains d = true}.ncard = p.days := by
  have hinjective : Function.Injective Date.ordinal := fun _ _ => Date.ordinal_inj
  have hordered := p.ordinal_first_le_last
  rw [← Set.ncard_image_of_injective _ hinjective, image_ordinal, Set.ncard_coe_finset,
    Nat.card_Icc, days]
  omega

/-! ## 5. The months divide the dates -/

/-- **The calendar months divide the dates.** Every month of the calendar has a period, which holds
    exactly the dates with its year and number and ends on the day before the following one begins.
    Every date lies in one such period only, the month of the date. A period of any kind has as
    many days as there are dates in it. A month that has no number from 1 to 12 is refused as such,
    whatever the year; otherwise a year outside the calendar is refused. -/
theorem months_divide_dates :
    (∀ year month : Int, (1 ≤ year ∧ year ≤ 9999) → (1 ≤ month ∧ month ≤ 12) →
      ∃ p, forMonth year month = .ok p ∧
        (∀ d : Date, p.contains d = true ↔ (d.year : Int) = year ∧ (d.month : Int) = month) ∧
        ∀ q, forMonth (following year month).1 (following year month).2 = .ok q →
          p.last.next? = some q.first) ∧
    (∀ d : Date, ∃ p, (Value.date d).calendarMonth = .ok p ∧
      ∀ q, ((∃ year month, forMonth year month = .ok q) ∧ q.contains d = true) ↔ q = p) ∧
    (∀ p : ReportPeriod, {d | p.contains d = true}.ncard = p.days) ∧
    (∀ year month : Int, ¬ (1 ≤ month ∧ month ≤ 12) →
      forMonth year month = .error (.illegalMonth month)) ∧
    ∀ year month : Int, (1 ≤ month ∧ month ≤ 12) → ¬ (1 ≤ year ∧ year ≤ 9999) →
      forMonth year month =
        .error (if InWord year then .dateText (.yearOutOfRange year) else .overflow) := by
  refine ⟨fun year month hyear hmonth => ?_, fun d => ⟨monthOf d, rfl, fun q => ?_⟩, ncard_dates,
    fun year month hmonth => if_neg hmonth, fun year month hmonth hyear => ?_⟩
  · obtain ⟨d, rfl, rfl⟩ := InCalendar.exists_date ⟨hyear, hmonth⟩
    refine ⟨monthOf d, forMonth_eq_ok_iff.mpr ⟨d, rfl, rfl, rfl⟩, fun e => ?_, fun q hq => ?_⟩
    · rw [contains_monthOf, Int.natCast_inj, Int.natCast_inj]
    · obtain ⟨e, heyear, hemonth, rfl⟩ := forMonth_eq_ok_iff.mp hq
      exact next?_lastOf (Prod.ext heyear.symm hemonth.symm)
  · constructor
    · rintro ⟨⟨year, month, hq⟩, hd⟩
      obtain ⟨e, _, _, rfl⟩ := forMonth_eq_ok_iff.mp hq
      obtain ⟨hyear, hmonth⟩ := contains_monthOf.mp hd
      exact monthOf_congr hyear.symm hmonth.symm
    · rintro rfl
      exact ⟨⟨d.year, d.month, forMonth_eq_ok_iff.mpr ⟨d, rfl, rfl, rfl⟩⟩,
        contains_monthOf.mpr ⟨rfl, rfl⟩⟩
  · rcases forMonth_cases year month with ⟨hother, _⟩ | ⟨_, _, herror⟩ | ⟨d, rfl, rfl, _⟩
    · exact absurd hmonth hother
    · exact herror
    · exact absurd (inCalendar_date d).1 hyear

/-- The day after the leap day of 2024 begins the month of March. Beside it, a month and two years
    that are refused. -/
theorem months_divide_dates_leapDay :
    (∃ february march leapDay, forMonth 2024 2 = .ok february ∧ forMonth 2024 3 = .ok march ∧
      Date.ofParts? 2024 2 29 = some leapDay ∧ february.contains leapDay = true ∧
      february.last.next? = some march.first) ∧
    forMonth 10000 13 = .error (.illegalMonth 13) ∧
    forMonth 10000 12 = .error (.dateText (.yearOutOfRange 10000)) ∧
    forMonth (-2147483649) 12 = .error .overflow := by
  obtain ⟨hmonths, -, -, hmonth, hyear⟩ := months_divide_dates
  obtain ⟨february, hfebruary, hdates, hnext⟩ := hmonths 2024 2 (by decide) (by decide)
  obtain ⟨march, hmarch, -, -⟩ := hmonths 2024 3 (by decide) (by decide)
  obtain ⟨leapDay, hleapDay⟩ := Date.exists_ofParts? (y := 2024) (m := 2) (d := 29) (by decide)
    (by decide) (by decide)
  obtain ⟨hleapYear, hleapMonth, -⟩ := Date.ofParts?_eq_some.mp hleapDay
  refine ⟨⟨february, march, leapDay, hfebruary, hmarch, hleapDay, ?_, hnext march hmarch⟩,
    hmonth 10000 13 (by decide), ?_, ?_⟩
  · exact (hdates leapDay).mpr ⟨by rw [hleapYear]; rfl, by rw [hleapMonth]; rfl⟩
  · exact hyear 10000 12 (by decide) (by decide)
  · exact hyear (-2147483649) 12 (by decide) (by decide)

end ReportPeriod

end PeppolStatistics
