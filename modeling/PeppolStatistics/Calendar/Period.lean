import PeppolStatistics.Failure

/-!
# Report periods

A `ReportPeriod` is a closed interval of dates. The periods that reports cover are calendar
months: `monthOf` gives the month of a date, `forMonth` the month of a year by number.
-/

namespace PeppolStatistics

/-- A closed interval of dates. -/
structure ReportPeriod where
  first : Date
  last : Date
  ordered : first ≤ last
deriving DecidableEq, Repr

namespace ReportPeriod

/-- The period between two dates, which must be in order. -/
def between (first last : Date) : Except Failure ReportPeriod :=
  if h : first ≤ last then .ok ⟨first, last, h⟩
  else .error (.invalid "report period" (.endBeforeStart first last))

/-- Whether a date lies in the period, the ends included. -/
def contains (p : ReportPeriod) (d : Date) : Bool := p.first ≤ d && d ≤ p.last

/-- The number of days of the period. -/
def days (p : ReportPeriod) : Nat := p.last.ordinal - p.first.ordinal + 1

/-- The text of a period: its ends. -/
def text (p : ReportPeriod) : String := p.first.iso ++ ".." ++ p.last.iso

/-- The calendar month of a date. -/
def monthOf (d : Date) : ReportPeriod :=
  ⟨d.firstOf, d.lastOf, by
    have := le_daysInMonth (y := d.year) d.month_mem
    intro h
    rcases h with h | ⟨_, h | ⟨_, h⟩⟩ <;> simp only [Date.firstOf, Date.lastOf] at h <;> omega⟩

/-- The least number that a year is refused for without being looked at. -/
def wordLimit : Int := 2147483648

/-- The first day of a month of a year. A month must have a number from 1 to 12, a year one from
    1 to 9999; a year that does not even fit a machine word is an overflow. -/
def firstOfMonth (year month : Int) : Except Failure Date :=
  if year < -wordLimit || wordLimit ≤ year || month < -wordLimit || wordLimit ≤ month then
    .error .overflow
  else if year < 1 || 9999 < year then .error (.dateText (.yearOutOfRange year))
  else match Date.ofParts year.toNat month.toNat 1 with
    | .ok d => .ok d
    | .error e => .error (.dateText e)

/-- The calendar month of a year, by number. The month is checked before the year. -/
def forMonth (year month : Int) : Except Failure ReportPeriod :=
  if 1 ≤ month ∧ month ≤ 12 then (firstOfMonth year month).map monthOf
  else .error (.illegalMonth month)

end ReportPeriod

end PeppolStatistics
