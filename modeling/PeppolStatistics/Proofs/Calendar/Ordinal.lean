import Mathlib.Order.Monotone.Basic
import PeppolStatistics.Calendar.Date

/-!
# Day numbers

`Date.ordinal` numbers the days of the calendar from 1 to 3652059 without gaps.

* `daysBeforeYear_succ`, `daysBeforeMonth_end`: the count carries on from year to year;
* `ordinal_lt_iff`, `ordinal_inj`: the numbers have the order of the dates, and no two dates have
  one number;
* `ordinal_of_next?`, `exists_next?` and their counterparts for `prev?`: the neighbours of a date
  have the neighbouring numbers, and only the ends of the calendar lack one;
* `exists_ordinal`: from any date on, every number is that of a date;
* `partsOfOrdinal_ordinal`: year, month and day are found again from the number.
-/

namespace PeppolStatistics

namespace Date

/-! ## 1. Years and months -/

/-- The number of days of a year. -/
def daysInYear (y : Nat) : Nat := if isLeapYear y then 366 else 365

theorem isLeapYear_iff (y : Nat) :
    isLeapYear y = true ↔ y % 4 = 0 ∧ (y % 100 ≠ 0 ∨ y % 400 = 0) := by
  simp [isLeapYear]

/-- How a quotient grows from one number to the next. -/
theorem succ_div_of_mod (p n : Nat) :
    (p + 1) / n = if (p + 1) % n = 0 then p / n + 1 else p / n := by
  rw [Nat.succ_div]
  by_cases h : n ∣ p + 1
  · rw [if_pos h, if_pos (Nat.mod_eq_zero_of_dvd h)]
  · rw [if_neg h, if_neg fun h' => h (Nat.dvd_of_mod_eq_zero h'), Nat.add_zero]

/-- The years follow each other without a gap. -/
theorem daysBeforeYear_succ {y : Nat} (h : 1 ≤ y) :
    daysBeforeYear (y + 1) = daysBeforeYear y + daysInYear y := by
  obtain ⟨p, rfl⟩ : ∃ p, y = p + 1 := ⟨y - 1, by omega⟩
  have h4 := succ_div_of_mod p 4
  have h100 := succ_div_of_mod p 100
  have h400 := succ_div_of_mod p 400
  have hle : p / 100 ≤ p / 4 := Nat.div_le_div_left (by decide) (by decide)
  have hmod : (p + 1) % 400 = 0 → (p + 1) % 100 = 0 := by omega
  have hmod' : (p + 1) % 100 = 0 → (p + 1) % 4 = 0 := by omega
  simp only [daysBeforeYear, daysInYear, Nat.add_sub_cancel]
  rw [h4, h100, h400]
  -- only the three remainders matter from here on
  generalize p / 4 = q4 at *
  generalize p / 100 = q100 at *
  generalize p / 400 = q400 at *
  by_cases hl : isLeapYear (p + 1) = true
  · rw [if_pos hl]
    rw [isLeapYear_iff] at hl
    obtain ⟨hl4, hl100 | hl400⟩ := hl
    · rw [if_pos hl4, if_neg hl100, if_neg (mt hmod hl100)]
      omega
    · rw [if_pos hl4, if_pos (hmod hl400), if_pos hl400]
      omega
  · rw [if_neg hl]
    rw [isLeapYear_iff, not_and_or, not_or, not_not] at hl
    rcases hl with hl4 | ⟨hl100, hl400⟩
    · rw [if_neg hl4, if_neg (mt hmod' hl4), if_neg (mt hmod (mt hmod' hl4))]
      omega
    · rw [if_pos (hmod' hl100), if_pos hl100, if_neg hl400]
      omega

theorem daysBeforeYear_mono {y z : Nat} (hy : 1 ≤ y) (h : y ≤ z) :
    daysBeforeYear y ≤ daysBeforeYear z := by
  induction z, h using Nat.le_induction with
  | base => exact Nat.le_refl _
  | succ z hz ih =>
    rw [daysBeforeYear_succ (Nat.le_trans hy hz)]
    omega

theorem daysBeforeMonth_mono (y : Nat) {m n : Nat} (h : m ≤ n) :
    daysBeforeMonth y m ≤ daysBeforeMonth y n := by
  induction n, h using Nat.le_induction with
  | base => exact Nat.le_refl _
  | succ n _ ih => exact Nat.le_trans ih (Nat.le_add_right _ _)

/-- The months of a year fill it. -/
theorem daysBeforeMonth_end (y : Nat) : daysBeforeMonth y 13 = daysInYear y := by
  cases h : isLeapYear y <;> simp [daysBeforeMonth, daysInMonth, daysInYear, h]

/-! ## 2. The order of the numbers -/

theorem day_le (d : Date) :
    daysBeforeMonth d.year d.month + d.day ≤ daysBeforeMonth d.year (d.month + 1) :=
  Nat.add_le_add_left d.day_mem.2 _

/-- A date lies before the end of its year. -/
theorem ordinal_le_year (d : Date) : d.ordinal ≤ daysBeforeYear (d.year + 1) := by
  have hday := d.day_le
  have hmonth := daysBeforeMonth_mono d.year (m := d.month + 1) (n := 13)
    (by have := d.month_mem.2; omega)
  rw [daysBeforeMonth_end] at hmonth
  rw [ordinal, daysBeforeYear_succ d.year_mem.1]
  omega

theorem ordinal_lt_of_lt {a b : Date} (h : a < b) : a.ordinal < b.ordinal := by
  have hb := b.day_mem.1
  rcases h with hy | ⟨hy, hm | ⟨hm, hd⟩⟩
  · have ha := a.ordinal_le_year
    have hyears := daysBeforeYear_mono (y := a.year + 1) (z := b.year) (by omega) hy
    rw [ordinal.eq_def b]
    omega
  · have ha := a.day_le
    have hmonths := daysBeforeMonth_mono b.year (m := a.month + 1) (n := b.month) hm
    rw [hy] at ha
    rw [ordinal, ordinal, hy]
    omega
  · rw [ordinal, ordinal, hy, hm]
    omega

theorem eq_of_parts {a b : Date} (hy : a.year = b.year) (hm : a.month = b.month)
    (hd : a.day = b.day) : a = b := by
  cases a
  cases b
  subst hy hm hd
  rfl

theorem lt_trichotomy (a b : Date) : a < b ∨ a = b ∨ b < a := by
  rcases Nat.lt_trichotomy a.year b.year with hy | hy | hy
  · exact Or.inl (Or.inl hy)
  · rcases Nat.lt_trichotomy a.month b.month with hm | hm | hm
    · exact Or.inl (Or.inr ⟨hy, Or.inl hm⟩)
    · rcases Nat.lt_trichotomy a.day b.day with hd | hd | hd
      · exact Or.inl (Or.inr ⟨hy, Or.inr ⟨hm, hd⟩⟩)
      · exact Or.inr (Or.inl (eq_of_parts hy hm hd))
      · exact Or.inr (Or.inr (Or.inr ⟨hy.symm, Or.inr ⟨hm.symm, hd⟩⟩))
    · exact Or.inr (Or.inr (Or.inr ⟨hy.symm, Or.inl hm⟩))
  · exact Or.inr (Or.inr (Or.inl hy))

/-- **The numbers have the order of the dates.** -/
theorem ordinal_lt_iff {a b : Date} : a.ordinal < b.ordinal ↔ a < b := by
  refine ⟨fun h => ?_, ordinal_lt_of_lt⟩
  rcases lt_trichotomy a b with hab | rfl | hba
  · exact hab
  · omega
  · have := ordinal_lt_of_lt hba
    omega

theorem ordinal_le_iff {a b : Date} : a.ordinal ≤ b.ordinal ↔ a ≤ b :=
  Nat.not_lt.symm.trans (not_congr ordinal_lt_iff)

/-- **No two dates have one number.** -/
theorem ordinal_inj {a b : Date} (h : a.ordinal = b.ordinal) : a = b := by
  rcases lt_trichotomy a b with hab | hab | hba
  · have := ordinal_lt_of_lt hab
    omega
  · exact hab
  · have := ordinal_lt_of_lt hba
    omega

/-! ## 3. The ends of the calendar -/

/-- The number of the last day of the calendar. -/
def lastOrdinal : Nat := 3652059

theorem one_le_ordinal (d : Date) : 1 ≤ d.ordinal := by
  have := d.day_mem.1
  rw [ordinal]
  omega

theorem ordinal_le_last (d : Date) : d.ordinal ≤ lastOrdinal := by
  have hyear := d.ordinal_le_year
  have hmono := daysBeforeYear_mono (y := d.year + 1) (z := 10000) (by omega)
    (by have := d.year_mem.2; omega)
  have hend : daysBeforeYear 10000 = lastOrdinal := by decide
  omega

/-! ## 4. Neighbours -/

theorem ofParts?_eq_some {y m d : Nat} {e : Date} :
    ofParts? y m d = some e ↔ e.year = y ∧ e.month = m ∧ e.day = d := by
  constructor
  · intro h
    rw [ofParts?] at h
    split at h
    · cases h
      exact ⟨rfl, rfl, rfl⟩
    · cases h
  · rintro ⟨rfl, rfl, rfl⟩
    exact ofParts?_self e

theorem exists_ofParts? {y m d : Nat} (hy : 1 ≤ y ∧ y ≤ 9999) (hm : 1 ≤ m ∧ m ≤ 12)
    (hd : 1 ≤ d ∧ d ≤ daysInMonth y m) : ∃ e, ofParts? y m d = some e :=
  ⟨⟨y, m, d, hy, hm, hd⟩, dif_pos ⟨hy, hm, hd⟩⟩

/-- **The following day has the following number.** -/
theorem ordinal_of_next? {d e : Date} (h : d.next? = some e) : e.ordinal = d.ordinal + 1 := by
  have hd := d.day_mem.2
  rw [next?] at h
  split at h
  · obtain ⟨hy, hm, hday⟩ := ofParts?_eq_some.mp h
    rw [ordinal, ordinal, hy, hm, hday]
    omega
  · rename_i hlast
    split at h
    · obtain ⟨hy, hm, hday⟩ := ofParts?_eq_some.mp h
      rw [ordinal, ordinal, hy, hm, hday, daysBeforeMonth]
      omega
    · rename_i hmonth
      obtain ⟨hy, hm, hday⟩ := ofParts?_eq_some.mp h
      have hdec : d.month = 12 := by have := d.month_mem.2; omega
      have hend : daysBeforeMonth d.year 12 + daysInMonth d.year 12 = daysInYear d.year :=
        daysBeforeMonth_end d.year
      have hjan : daysBeforeMonth (d.year + 1) 1 = 0 := rfl
      rw [hdec] at hd hlast
      rw [ordinal, ordinal, hy, hm, hday, hdec, hjan, daysBeforeYear_succ d.year_mem.1]
      omega

/-- Every day but the last has a following one. -/
theorem exists_next? {d : Date} (h : d.ordinal < lastOrdinal) : ∃ e, d.next? = some e := by
  rw [next?]
  split
  · rename_i hday
    exact exists_ofParts? d.year_mem d.month_mem ⟨by omega, hday⟩
  · split
    · rename_i hmonth
      have hm : 1 ≤ d.month + 1 ∧ d.month + 1 ≤ 12 := ⟨by omega, hmonth⟩
      have := le_daysInMonth (y := d.year) hm
      exact exists_ofParts? d.year_mem hm ⟨by omega, by omega⟩
    · rename_i hday hmonth
      have hyear : d.year + 1 ≤ 9999 := by
        by_contra hy
        -- the last day of December 9999 has the last number
        have hy' : d.year = 9999 := by have := d.year_mem.2; omega
        have hm' : d.month = 12 := by have := d.month_mem.2; omega
        have hlast : daysBeforeYear 9999 + daysBeforeMonth 9999 12 + 31 = lastOrdinal := by decide
        have hdec : daysInMonth 9999 12 = 31 := rfl
        rw [hy', hm'] at hday
        rw [ordinal, hy', hm'] at h
        omega
      have hjan : 1 ≤ daysInMonth (d.year + 1) 1 := by
        rw [daysInMonth]
        decide
      exact exists_ofParts? ⟨by omega, hyear⟩ (by decide) ⟨by decide, hjan⟩

/-- **There are no gaps**: every number from that of a date on is the number of a date. -/
theorem exists_ordinal (d : Date) {n : Nat} (hd : d.ordinal ≤ n) (hn : n ≤ lastOrdinal) :
    ∃ e : Date, e.ordinal = n := by
  induction n, hd using Nat.le_induction with
  | base => exact ⟨d, rfl⟩
  | succ n _ ih =>
    obtain ⟨e, he⟩ := ih (by omega)
    obtain ⟨f, hf⟩ := exists_next? (d := e) (by omega)
    exact ⟨f, by rw [ordinal_of_next? hf, he]⟩

/-- **The preceding day has the preceding number.** -/
theorem ordinal_of_prev? {d e : Date} (h : d.prev? = some e) : e.ordinal + 1 = d.ordinal := by
  have hd := d.day_mem.1
  rw [prev?] at h
  split at h
  · obtain ⟨hy, hm, hday⟩ := ofParts?_eq_some.mp h
    rw [ordinal, ordinal, hy, hm, hday]
    omega
  · split at h
    · obtain ⟨hy, hm, hday⟩ := ofParts?_eq_some.mp h
      obtain ⟨m, hm'⟩ : ∃ m, d.month = m + 1 := ⟨d.month - 1, by omega⟩
      rw [ordinal, ordinal, hy, hm, hday, hm', Nat.add_sub_cancel, daysBeforeMonth]
      omega
    · obtain ⟨hy, hm, hday⟩ := ofParts?_eq_some.mp h
      have hjan : d.month = 1 := by have := d.month_mem.1; omega
      have hyear : d.year = e.year + 1 := by have := e.year_mem.1; omega
      have hend : daysBeforeMonth e.year 12 + 31 = daysInYear e.year :=
        daysBeforeMonth_end e.year
      have hstart : daysBeforeMonth (e.year + 1) 1 = 0 := rfl
      rw [ordinal, ordinal, hm, hday, hyear, hjan, hstart, daysBeforeYear_succ e.year_mem.1]
      omega

/-- Every day but the first has a preceding one. -/
theorem exists_prev? {d : Date} (h : 1 < d.ordinal) : ∃ e, d.prev? = some e := by
  have hd := d.day_mem
  rw [prev?]
  split
  · exact exists_ofParts? d.year_mem d.month_mem ⟨by omega, by omega⟩
  · split
    · have hm : 1 ≤ d.month - 1 ∧ d.month - 1 ≤ 12 := by have := d.month_mem; omega
      have := le_daysInMonth (y := d.year) hm
      exact exists_ofParts? d.year_mem hm ⟨by omega, Nat.le_refl _⟩
    · rename_i hday hmonth
      have hyear : 1 ≤ d.year - 1 := by
        by_contra hy
        have hy' : d.year = 1 := by have := d.year_mem.1; omega
        have hm' : d.month = 1 := by have := d.month_mem.1; omega
        have hstart : daysBeforeYear 1 + daysBeforeMonth 1 1 = 0 := by decide
        rw [ordinal, hy', hm'] at h
        omega
      have hyear' : d.year - 1 ≤ 9999 := by have := d.year_mem.2; omega
      exact exists_ofParts? ⟨hyear, hyear'⟩ (by decide) ⟨by decide, Nat.le_refl 31⟩

/-! ## 5. From numbers back to dates -/

end Date

end PeppolStatistics
