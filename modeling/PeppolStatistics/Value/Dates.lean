import PeppolStatistics.Value.Printer

/-!
# Dates of values

Where a date is expected, a date, a point in time or the ISO text of either may stand. All are
reduced to the calendar date as written; an offset does not shift it.
-/

namespace PeppolStatistics

namespace Value

/-- The calendar date in an ISO text: of a point in time if the text holds the letter `T`, of a
    date otherwise. -/
def dateOfText (s : String) : Except DateTextError Date :=
  if s.toList.contains 'T' then (DateTime.ofIso s).map (·.date) else Date.ofIso s

/-- The calendar date of a value. -/
def calendarDate (v : Value) : Except Failure Date :=
  match v with
  | .dateTime t => .ok t.date
  | .date d => .ok d
  | v =>
    match v.asText? with
    | some s =>
      match dateOfText s with
      | .ok d => .ok d
      | .error _ => .error (v.refusal fun shown => .invalid "date" (.notIsoDate shown))
    | none => .error (v.refusal fun shown => .invalid "date" (.noCalendarDate shown))

/-- The calendar month that contains the date of a value. -/
def calendarMonth (v : Value) : Except Failure ReportPeriod := v.calendarDate.map .monthOf

end Value

end PeppolStatistics
