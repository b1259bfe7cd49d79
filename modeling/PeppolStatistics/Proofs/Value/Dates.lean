import PeppolStatistics.Proofs.Calendar.Iso
import PeppolStatistics.Value.Dates

/-!
# Values that stand for a date

`Value.StandsFor` says which values stand for a calendar date, and for which one; a value is
reduced to a date exactly if it stands for it (`calendarDate_eq_ok_iff`). The written forms of a
date and of a point in time are among these values.
-/

namespace PeppolStatistics

namespace Value

/-- **A value stands for a date**: the date, a point in time on this day by its own clock, or the
    ISO text of either. The letter `T` tells the text of a point in time from that of a date. -/
inductive StandsFor : Value → Date → Prop where
  | date (d : Date) : StandsFor (.date d) d
  | dateTime (t : DateTime) : StandsFor (.dateTime t) t.date
  | dateText {v : Value} {s : String} {d : Date} (hs : v.asText? = some s) (hT : 'T' ∉ s.toList)
      (hd : Date.ofIso s = .ok d) : StandsFor v d
  | dateTimeText {v : Value} {s : String} {t : DateTime} (hs : v.asText? = some s)
      (hT : 'T' ∈ s.toList) (ht : DateTime.ofIso s = .ok t) : StandsFor v t.date

variable {v : Value} {s : String} {d : Date}

/-! ## 1. Texts -/

theorem dateOfText_of_T (hT : 'T' ∈ s.toList) :
    dateOfText s = (DateTime.ofIso s).map (·.date) := by
  rw [dateOfText, if_pos (List.contains_iff_mem.mpr hT)]

theorem dateOfText_of_not_T (hT : 'T' ∉ s.toList) : dateOfText s = Date.ofIso s := by
  rw [dateOfText, if_neg (fun h => hT (List.contains_iff_mem.mp h))]

/-- A text with a date in it stands for the date. -/
theorem standsFor_of_dateOfText (hs : v.asText? = some s) (hd : dateOfText s = .ok d) :
    v.StandsFor d := by
  by_cases hT : 'T' ∈ s.toList
  · rw [dateOfText_of_T hT] at hd
    cases ht : DateTime.ofIso s with
    | error e =>
      rw [ht] at hd
      cases hd
    | ok t =>
      rw [ht] at hd
      cases hd
      exact .dateTimeText hs hT ht
  · rw [dateOfText_of_not_T hT] at hd
    exact .dateText hs hT hd

/-- A value with a text is reduced to what the text holds. -/
theorem calendarDate_of_text (hs : v.asText? = some s) (hd : dateOfText s = .ok d) :
    v.calendarDate = .ok d := by
  cases v with
  | text | direction | dimension => simp only [calendarDate, hs, hd]
  | _ => cases hs

/-! ## 2. Values -/

/-- **A value is reduced to a date** exactly if it stands for it. -/
theorem calendarDate_eq_ok_iff : v.calendarDate = .ok d ↔ v.StandsFor d := by
  constructor
  · intro h
    unfold calendarDate at h
    split at h
    · cases h
      exact .dateTime _
    · cases h
      exact .date _
    · split at h
      · rename_i s hs
        split at h
        · rename_i d' hd
          cases h
          exact standsFor_of_dateOfText hs hd
        · cases h
      · cases h
  · intro h
    cases h with
    | date => rfl
    | dateTime => rfl
    | dateText hs hT hd => exact calendarDate_of_text hs ((dateOfText_of_not_T hT).trans hd)
    | dateTimeText hs hT ht =>
      refine calendarDate_of_text hs ((dateOfText_of_T hT).trans ?_)
      rw [ht]
      rfl

theorem StandsFor.ne_null (h : v.StandsFor d) : v ≠ .null := by
  rintro rfl
  cases calendarDate_eq_ok_iff.mpr h

/-! ## 3. Written forms -/

theorem not_T_mem_isoChars (d : Date) : 'T' ∉ d.isoChars := by
  have hyear := Iso.not_T_mem_fixedDigits 4 d.year
  have hmonth := Iso.not_T_mem_fixedDigits 2 d.month
  have hday := Iso.not_T_mem_fixedDigits 2 d.day
  simp [Date.isoChars, hyear, hmonth, hday]

/-- **The text of a date** stands for the date. -/
theorem standsFor_dateIso (d : Date) : StandsFor (.text d.iso) d := by
  refine .dateText rfl ?_ d.ofIso_iso
  rw [Date.iso, String.toList_ofList]
  exact not_T_mem_isoChars d

/-- **The text of a point in time** stands for the date on its own clock, whatever its offset. -/
theorem standsFor_dateTimeIso (t : DateTime) : StandsFor (.text t.iso) t.date := by
  refine .dateTimeText (t := { t with offset := t.offset.map UtcOffset.written }) rfl ?_ t.ofIso_iso
  rw [DateTime.iso, String.toList_ofList, DateTime.isoChars, DateTime.charsWith]
  simp

end Value

end PeppolStatistics
