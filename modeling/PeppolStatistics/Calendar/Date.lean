/-!
# Calendar dates

A `Date` is a day of the Gregorian calendar in the years 1 to 9999; its bounds are part of the
type, so every date in the library is a real day. This file holds the length of the months, the
order of the dates, the neighbours of a date, and the count of days (`ordinal`) with its inverse.
-/

namespace PeppolStatistics

/-! ## 1. Months -/

/-- Whether a year has a 29 February. -/
def isLeapYear (y : Nat) : Bool := y % 4 == 0 && (y % 100 != 0 || y % 400 == 0)

/-- The number of days of a month; no month has the number `0` or one above `12`. -/
def daysInMonth (y : Nat) : Nat → Nat
  | 1 | 3 | 5 | 7 | 8 | 10 | 12 => 31
  | 4 | 6 | 9 | 11 => 30
  | 2 => if isLeapYear y then 29 else 28
  | _ => 0

theorem daysInMonth_le (y m : Nat) : daysInMonth y m ≤ 31 := by
  unfold daysInMonth
  split <;> (try split) <;> omega

theorem le_daysInMonth {y m : Nat} (h : 1 ≤ m ∧ m ≤ 12) : 28 ≤ daysInMonth y m := by
  obtain ⟨h₁, h₂⟩ := h
  have : m = 1 ∨ m = 2 ∨ m = 3 ∨ m = 4 ∨ m = 5 ∨ m = 6 ∨ m = 7 ∨ m = 8 ∨ m = 9 ∨ m = 10 ∨ m = 11
      ∨ m = 12 := by omega
  rcases this with h | h | h | h | h | h | h | h | h | h | h | h <;> subst h
  case inr.inl => rw [daysInMonth]; split <;> omega
  all_goals simp [daysInMonth]

/-! ## 2. Dates -/

/-- A day of the Gregorian calendar. -/
structure Date where
  year : Nat
  month : Nat
  day : Nat
  year_mem : 1 ≤ year ∧ year ≤ 9999
  month_mem : 1 ≤ month ∧ month ≤ 12
  day_mem : 1 ≤ day ∧ day ≤ daysInMonth year month
deriving DecidableEq, Repr

namespace Date

/-- The date with the given year, month and day, if there is one. -/
def ofParts? (y m d : Nat) : Option Date :=
  if h : (1 ≤ y ∧ y ≤ 9999) ∧ (1 ≤ m ∧ m ≤ 12) ∧ 1 ≤ d ∧ d ≤ daysInMonth y m then
    some ⟨y, m, d, h.1, h.2.1, h.2.2⟩
  else none

@[simp] theorem ofParts?_self (d : Date) : ofParts? d.year d.month d.day = some d := by
  simp [ofParts?, d.year_mem, d.month_mem, d.day_mem]

/-- One date lies before another: compared by year, then by month, then by day. -/
def Before (a b : Date) : Prop :=
  a.year < b.year ∨ (a.year = b.year ∧ (a.month < b.month ∨ (a.month = b.month ∧ a.day < b.day)))

instance : LT Date := ⟨Before⟩
instance : LE Date := ⟨fun a b => ¬ b < a⟩
instance (a b : Date) : Decidable (a < b) := inferInstanceAs (Decidable (_ ∨ _))
instance (a b : Date) : Decidable (a ≤ b) := inferInstanceAs (Decidable (¬ _))

/-- The first day of a month. -/
def firstOf (d : Date) : Date :=
  ⟨d.year, d.month, 1, d.year_mem, d.month_mem, by
    have := le_daysInMonth (y := d.year) d.month_mem; omega⟩

/-- The last day of a month. -/
def lastOf (d : Date) : Date :=
  ⟨d.year, d.month, daysInMonth d.year d.month, d.year_mem, d.month_mem, by
    have := le_daysInMonth (y := d.year) d.month_mem; omega⟩

/-- The following day, unless the calendar ends. -/
def next? (d : Date) : Option Date :=
  if d.day < daysInMonth d.year d.month then ofParts? d.year d.month (d.day + 1)
  else if d.month < 12 then ofParts? d.year (d.month + 1) 1
  else ofParts? (d.year + 1) 1 1

/-- The preceding day, unless the calendar begins. -/
def prev? (d : Date) : Option Date :=
  if 1 < d.day then ofParts? d.year d.month (d.day - 1)
  else if 1 < d.month then
    ofParts? d.year (d.month - 1) (daysInMonth d.year (d.month - 1))
  else ofParts? (d.year - 1) 12 31

/-! ## 3. Counting days -/

/-- The number of days before the first day of a year, counted from 1 January of the year 1. -/
def daysBeforeYear (y : Nat) : Nat :=
  let p := y - 1
  365 * p + p / 4 - p / 100 + p / 400

/-- The number of days of a year before a month. -/
def daysBeforeMonth (y : Nat) : Nat → Nat
  | 0 => 0
  | m + 1 => daysBeforeMonth y m + daysInMonth y m

/-- The number of a day, from `1` for 1 January of the year 1. -/
def ordinal (d : Date) : Nat := daysBeforeYear d.year + daysBeforeMonth d.year d.month + d.day

/-- The month and day of the `n`th day of a year, searched from month `m` on. -/
def monthAndDay (y : Nat) : Nat → Nat → Nat → Nat × Nat
  | 0, m, n => (m, n)
  | fuel + 1, m, n =>
    if n ≤ daysInMonth y m then (m, n) else monthAndDay y fuel (m + 1) (n - daysInMonth y m)

/-- Year, month and day of a day number, also beyond the last year. -/
def partsOfOrdinal (n : Nat) : Nat × Nat × Nat :=
  let n := n - 1
  let n400 := n / 146097
  let n := n % 146097
  let n100 := min 3 (n / 36524)
  let n := n - 36524 * n100
  let n4 := n / 1461
  let n := n % 1461
  let n1 := min 3 (n / 365)
  let n := n - 365 * n1
  let y := 400 * n400 + 100 * n100 + 4 * n4 + n1 + 1
  let p := monthAndDay y 12 1 (n + 1)
  (y, p.1, p.2)

example : partsOfOrdinal 1 = (1, 1, 1) ∧ partsOfOrdinal 3652059 = (9999, 12, 31) := by decide

/-! ## 4. Weeks -/

/-- The day number of the Monday on which the first week of a year begins: the week that holds the
    first Thursday of the year. -/
def firstMonday (y : Nat) : Nat :=
  let first := daysBeforeYear y + 1
  let weekday := (first + 6) % 7
  if weekday > 3 then first + 7 - weekday else first - weekday

/-- The number of weeks of a year: 53 if it begins on a Thursday, or on a Wednesday with a leap
    day, otherwise 52. -/
def weeksInYear (y : Nat) : Nat :=
  let weekday := (daysBeforeYear y + 1 + 6) % 7
  if weekday == 3 || (weekday == 2 && isLeapYear y) then 53 else 52

/-- Year, month and day of a day given by year, week and day of the week; the year may be the one
    after the last. The year before the first has weeks, but its days have no month. -/
def partsOfWeek? (y w d : Nat) : Option (Nat × Nat × Nat) :=
  if y ≤ 9999 && 1 ≤ w && w ≤ weeksInYear y && 1 ≤ d && d ≤ 7 then
    some (if y = 0 then (1, 0, 0)
      else partsOfOrdinal (firstMonday y + (w - 1) * 7 + (d - 1)))
  else none

end Date

end PeppolStatistics
