import Mathlib.Data.List.TakeDrop
import PeppolStatistics.CommandLine.Month
import PeppolStatistics.Proofs.Calendar.Months
import PeppolStatistics.Proofs.Text.WholeNumber

/-!
# Months on the command line

What is taken as a month on the command line, for every text.

* `parseMonth_monthText`: four digits for the year, a hyphen and two digits for the month are read
  back;
* `splitHyphens_eq_pair_iff`: a text with one hyphen in it;
* `parseMonth_spelt`: **a text is a month exactly if it spells one** (`Spells`), with whole numbers
  of any width. A number beyond a machine word is an overflow, any other text a mistake;
* `parseMonth_lenient`: so more is taken than four digits, a hyphen and two digits, and not every
  other text is a mistake.
-/

namespace PeppolStatistics

open Numeral

/-! ## 1. Hyphens -/

theorem splitHyphens_of_not_mem {cs : List Char} (h : '-' ∉ cs) : splitHyphens cs = [cs] := by
  induction cs with
  | nil => rfl
  | cons c cs ih =>
    rw [List.mem_cons, not_or] at h
    obtain ⟨hc, hcs⟩ := h
    rw [splitHyphens, ih hcs]
    exact fun hc' => hc hc'.symm

theorem splitHyphens_append {cs : List Char} (h : '-' ∉ cs) (rest : List Char) :
    splitHyphens (cs ++ '-' :: rest) = cs :: splitHyphens rest := by
  induction cs with
  | nil => rfl
  | cons c cs ih =>
    rw [List.mem_cons, not_or] at h
    obtain ⟨hc, hcs⟩ := h
    rw [List.cons_append, splitHyphens, ih hcs]
    exact fun hc' => hc hc'.symm

/-- A text is free of hyphens, or it is split at its first one. -/
theorem splitHyphens_cases (cs : List Char) :
    ('-' ∉ cs ∧ splitHyphens cs = [cs]) ∨
      ∃ first rest, '-' ∉ first ∧ cs = first ++ '-' :: rest ∧
        splitHyphens cs = first :: splitHyphens rest := by
  by_cases h : '-' ∈ cs
  · obtain ⟨first, rest, rfl, hfirst⟩ := List.eq_append_cons_of_mem h
    exact .inr ⟨first, rest, hfirst, rfl, splitHyphens_append hfirst rest⟩
  · exact .inl ⟨h, splitHyphens_of_not_mem h⟩

/-- **A text with one hyphen in it.** -/
theorem splitHyphens_eq_pair_iff {cs before after : List Char} :
    splitHyphens cs = [before, after] ↔
      cs = before ++ '-' :: after ∧ '-' ∉ before ∧ '-' ∉ after := by
  constructor
  · intro h
    rcases splitHyphens_cases cs with ⟨_, hone⟩ | ⟨first, rest, hfirst, rfl, hmore⟩
    · rw [hone] at h
      cases h
    · rw [hmore] at h
      obtain ⟨rfl, h⟩ := List.cons.inj h
      rcases splitHyphens_cases rest with ⟨hrest, hone⟩ | ⟨second, rest, _, rfl, hmore⟩
      · rw [hone] at h
        cases h
        exact ⟨rfl, hfirst, hrest⟩
      · rw [hmore] at h
        rcases splitHyphens_cases rest with ⟨_, hone⟩ | ⟨_, _, _, _, hmore⟩
        · rw [hone] at h
          cases h
        · rw [hmore] at h
          cases h
  · rintro ⟨rfl, hbefore, hafter⟩
    rw [splitHyphens_append hbefore, splitHyphens_of_not_mem hafter]

/-! ## 2. Spelling a month -/

/-- **A text spells a year and a month**: two whole numbers with the only hyphen between them. -/
def Spells (s : String) (year month : Int) : Prop :=
  ∃ before after, s.toList = before ++ '-' :: after ∧ '-' ∉ before ∧ '-' ∉ after ∧
    Writes before year ∧ Writes after month

variable {s : String} {year month : Int}

theorem spells_iff :
    Spells s year month ↔ ∃ before after, splitHyphens s.toList = [before, after] ∧
      readInt? before = some year ∧ readInt? after = some month := by
  simp only [Spells, splitHyphens_eq_pair_iff, readInt?_eq_some_iff, and_assoc]

/-- No text spells two months. -/
theorem Spells.unique {year' month' : Int} (h : Spells s year month) (h' : Spells s year' month') :
    year = year' ∧ month = month' := by
  obtain ⟨before, after, hsplit, hyear, hmonth⟩ := spells_iff.mp h
  obtain ⟨before', after', hsplit', hyear', hmonth'⟩ := spells_iff.mp h'
  obtain ⟨rfl, h⟩ := List.cons.inj (hsplit.symm.trans hsplit')
  obtain ⟨rfl, -⟩ := List.cons.inj h
  exact ⟨Option.some.inj (hyear.symm.trans hyear'), Option.some.inj (hmonth.symm.trans hmonth')⟩

/-! ## 3. Reading a month -/

/-- What is spelt has a first day, or it is refused like a first day that is not there. -/
theorem parseMonth_of_spells (h : Spells s year month) :
    (∀ d, ReportPeriod.firstOfMonth year month = .ok d → parseMonth s = .ok d) ∧
    (ReportPeriod.firstOfMonth year month = .error .overflow → parseMonth s = .error .overflow) ∧
    ∀ e, ReportPeriod.firstOfMonth year month = .error (.dateText e) →
      parseMonth s = .error (.notAMonth (quoted s)) := by
  obtain ⟨before, after, hsplit, hyear, hmonth⟩ := spells_iff.mp h
  refine ⟨fun d hd => ?_, fun hoverflow => ?_, fun e he => ?_⟩
  · simp only [parseMonth, hsplit, hyear, hmonth, hd]
  · simp only [parseMonth, hsplit, hyear, hmonth, hoverflow]
  · simp only [parseMonth, hsplit, hyear, hmonth, he]

theorem parseMonth_of_not_spells (h : ∀ year month, ¬ Spells s year month) :
    parseMonth s = .error (.notAMonth (quoted s)) := by
  rw [parseMonth]
  split
  · rename_i before after hsplit
    split
    · rename_i y m hyear hmonth
      exact absurd (spells_iff.mpr ⟨before, after, hsplit, hyear, hmonth⟩) (h y m)
    · rfl
  · rfl

/-- **The three ends of reading a month.** -/
theorem parseMonth_cases (s : String) :
    (∃ year month, Spells s year month ∧
      ¬ (ReportPeriod.InWord year ∧ ReportPeriod.InWord month) ∧
      parseMonth s = .error .overflow) ∨
    (∃ d : Date, Spells s d.year d.month ∧ parseMonth s = .ok d.firstOf) ∨
    ((∀ year month, Spells s year month →
        (ReportPeriod.InWord year ∧ ReportPeriod.InWord month) ∧
          ¬ ReportPeriod.InCalendar year month) ∧
      parseMonth s = .error (.notAMonth (quoted s))) := by
  by_cases h : ∃ year month, Spells s year month
  · obtain ⟨year, month, h⟩ := h
    obtain ⟨hok, hoverflow, hmistake⟩ := parseMonth_of_spells h
    rcases ReportPeriod.firstOfMonth_cases year month with
      ⟨hword, hfirst⟩ | ⟨hword, hcalendar, e, hfirst⟩ | ⟨d, rfl, rfl, hfirst⟩
    · exact .inl ⟨year, month, h, hword, hoverflow hfirst⟩
    · refine .inr (.inr ⟨fun year' month' h' => ?_, hmistake e hfirst⟩)
      obtain ⟨rfl, rfl⟩ := h.unique h'
      exact ⟨hword, hcalendar⟩
    · exact .inr (.inl ⟨d, h, hok _ hfirst⟩)
  · have hno : ∀ year month, ¬ Spells s year month := fun year month hs => h ⟨year, month, hs⟩
    exact .inr (.inr ⟨fun year month hs => absurd hs (hno year month),
      parseMonth_of_not_spells hno⟩)

/-! ## 4. Four digits and two -/

/-- The month of a date as year and month with a hyphen between them: four digits and two. -/
def Date.monthText (d : Date) : String :=
  String.ofList (fixedDigits 4 d.year ++ '-' :: fixedDigits 2 d.month)

theorem not_hyphen_mem_fixedDigits (width n : Nat) : '-' ∉ fixedDigits width n := by
  intro h
  obtain ⟨d, hd, hhyphen⟩ := exists_of_mem_fixedDigits h
  exact (digitChar_plain hd).2.2.1 hhyphen.symm

theorem spells_monthText (d : Date) : Spells d.monthText d.year d.month := by
  have hyear : readInt? (fixedDigits 4 d.year) = some (d.year : Int) :=
    readInt?_fixedDigits (by decide) (by have := d.year_mem; omega)
  have hmonth : readInt? (fixedDigits 2 d.month) = some (d.month : Int) :=
    readInt?_fixedDigits (by decide) (by have := d.month_mem; omega)
  exact ⟨_, _, String.toList_ofList, not_hyphen_mem_fixedDigits 4 d.year,
    not_hyphen_mem_fixedDigits 2 d.month, readInt?_eq_some_iff.mp hyear,
    readInt?_eq_some_iff.mp hmonth⟩

/-- **A written month is read back** as its first day. -/
theorem parseMonth_monthText (d : Date) : parseMonth d.monthText = .ok d.firstOf :=
  (parseMonth_of_spells (spells_monthText d)).1 _ (ReportPeriod.firstOfMonth_date d)

/-! ## 5. All texts -/

/-- **What is taken as a month**, for every text: a text gives the first day of the month that it
    spells, of the years 1 to 9999. If it spells a number that does not fit a machine word, there is
    an overflow, and any other text is a mistake in the argument. Four digits, a hyphen and two
    digits are one way to spell a month. -/
theorem parseMonth_spelt (s : String) :
    (∀ d, parseMonth s = .ok d ↔ d.day = 1 ∧ Spells s d.year d.month) ∧
    (parseMonth s = .error .overflow ↔ ∃ year month, Spells s year month ∧
      ¬ (ReportPeriod.InWord year ∧ ReportPeriod.InWord month)) ∧
    ((∃ d, parseMonth s = .ok d) ∨ parseMonth s = .error .overflow ∨
      parseMonth s = .error (.notAMonth (quoted s))) ∧
    ∀ d : Date, s = d.monthText → parseMonth s = .ok d.firstOf := by
  refine ⟨fun d => ?_, ?_, ?_, fun d hs => hs ▸ parseMonth_monthText d⟩
  · constructor
    · intro h
      rcases parseMonth_cases s with ⟨_, _, _, _, hend⟩ | ⟨e, hs, hend⟩ | ⟨_, hend⟩
      · rw [hend] at h
        cases h
      · obtain rfl := Except.ok.inj (hend.symm.trans h)
        exact ⟨rfl, hs⟩
      · rw [hend] at h
        cases h
    · rintro ⟨hday, hs⟩
      have hfirst : d.firstOf = d := Date.eq_of_parts rfl rfl hday.symm
      rw [← hfirst]
      exact (parseMonth_of_spells hs).1 _ (ReportPeriod.firstOfMonth_date d)
  · constructor
    · intro h
      rcases parseMonth_cases s with ⟨year, month, hs, hword, _⟩ | ⟨_, _, hend⟩ | ⟨_, hend⟩
      · exact ⟨year, month, hs, hword⟩
      · rw [hend] at h
        cases h
      · rw [hend] at h
        cases h
    · rintro ⟨year, month, hs, hword⟩
      exact (parseMonth_of_spells hs).2.1 (ReportPeriod.firstOfMonth_overflow hword)
  · rcases parseMonth_cases s with ⟨_, _, _, _, hend⟩ | ⟨d, _, hend⟩ | ⟨_, hend⟩
    · exact .inr (.inl hend)
    · exact .inl ⟨_, hend⟩
    · exact .inr (.inr hend)

/-- **More than four digits, a hyphen and two digits is taken as a month**, so that a year may be
    cut short, and a number may be too large to be named as a mistake. -/
theorem parseMonth_lenient :
    (¬ ∀ s, (∃ d : Date, s = d.monthText ∧ parseMonth s = .ok d.firstOf) ∨
      parseMonth s = .error (.notAMonth (quoted s))) ∧
    parseMonth "23-06" = .ok ⟨23, 6, 1, by decide, by decide, by decide⟩ ∧
    parseMonth "99999999999-06" = .error .overflow := by
  have hshort : parseMonth "23-06" = .ok ⟨23, 6, 1, by decide, by decide, by decide⟩ := rfl
  refine ⟨fun h => ?_, hshort, rfl⟩
  rcases h "23-06" with ⟨d, hd, -⟩ | hmistake
  · have hlength := congrArg (fun s => s.toList.length) hd
    simp [Date.monthText] at hlength
  · rw [hshort] at hmistake
    cases hmistake

end PeppolStatistics
