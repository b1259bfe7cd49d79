import PeppolStatistics.Value.Dates

/-!
# Months on the command line

A month is written as year and month with a hyphen between them, both as whole numbers.
-/

namespace PeppolStatistics

/-- The texts between the hyphens of a text. -/
def splitHyphens : List Char → List (List Char)
  | [] => [[]]
  | '-' :: cs => [] :: splitHyphens cs
  | c :: cs =>
    match splitHyphens cs with
    | [] => [[c]]
    | part :: parts => (c :: part) :: parts

/-- The first day of a month written as year and month. A number that does not fit a machine word
    is an overflow; any other mistake is a mistake in the argument. -/
def parseMonth (s : String) : Except Failure Date :=
  let mistake : Failure := .notAMonth (quoted s)
  match splitHyphens s.toList with
  | [year, month] =>
    match Numeral.readInt? year, Numeral.readInt? month with
    | some y, some m =>
      match ReportPeriod.firstOfMonth y m with
      | .ok d => .ok d
      | .error .overflow => .error .overflow
      | .error _ => .error mistake
    | _, _ => .error mistake
  | _ => .error mistake

end PeppolStatistics
