import PeppolStatistics.Calendar.Time
import PeppolStatistics.Proofs.Calendar.Ordinal

/-!
# Moving clocks

`DateTime.moveClock` moves a date and a time of day by looking at the neighbours of the date.
Here it is compared with plain addition on the microseconds that the clock shows
(`clockMicros`, counted from the day before the calendar begins).

* `clockMicros_inj`: a clock is known by its microseconds;
* `moveClock_eq_some_iff`: for a move of less than a day the result is the clock whose
  microseconds are the sum, and there is one exactly if the sum lies within the calendar;
* `localClock_utcClock`: the way to universal time and back leads to the clock one started from.
-/

namespace PeppolStatistics

/-! ## 1. Microseconds of a clock -/

theorem TimeOfDay.micros_bound (t : TimeOfDay) : (t.micros : Int) < 86400000000 := by
  have := t.micros_lt
  rw [dayMicros] at this
  omega

namespace DateTime

/-- The microseconds that a clock shows. -/
def clockMicros (d : Date) (t : TimeOfDay) : Int := (d.ordinal : Int) * 86400000000 + t.micros

/-- The first point in time of the calendar, `0001-01-01T00:00:00` of universal time. -/
def earliest : DateTime := ⟨⟨1, 1, 1, by decide, by decide, by decide⟩, .midnight, some .utc⟩

/-- The last point in time of the calendar, `9999-12-31T23:59:59.999999` of universal time. -/
def latest : DateTime :=
  ⟨⟨9999, 12, 31, by decide, by decide, by decide⟩, ⟨86399999999, by decide⟩, some .utc⟩

/-- Whether an instant is that of a point in time of the calendar. -/
def InCalendar (instant : Int) : Prop := earliest.instant ≤ instant ∧ instant ≤ latest.instant

theorem inCalendar_iff {x : Int} :
    InCalendar x ↔ 86400000000 ≤ x ∧ x ≤ 3652059 * 86400000000 + 86399999999 := by
  have hearliest : earliest.instant = 86400000000 := by decide
  have hlatest : latest.instant = 3652059 * 86400000000 + 86399999999 := by decide
  rw [InCalendar, hearliest, hlatest]

instance (x : Int) : Decidable (InCalendar x) := inferInstanceAs (Decidable (_ ∧ _))

/-- A clock shows a time within the calendar. -/
theorem inCalendar_clockMicros (d : Date) (t : TimeOfDay) : InCalendar (clockMicros d t) := by
  have hfirst := d.one_le_ordinal
  have hlast := d.ordinal_le_last
  have ht := t.micros_bound
  rw [Date.lastOrdinal] at hlast
  rw [inCalendar_iff, clockMicros]
  omega

/-- **A clock is known by its microseconds.** -/
theorem clockMicros_inj {d e : Date} {t u : TimeOfDay} (h : clockMicros d t = clockMicros e u) :
    d = e ∧ t = u := by
  have ht := t.micros_bound
  have hu := u.micros_bound
  rw [clockMicros, clockMicros] at h
  have hd : d.ordinal = e.ordinal := by omega
  have hm : t.micros = u.micros := by omega
  refine ⟨Date.ordinal_inj hd, ?_⟩
  cases t
  cases u
  subst hm
  rfl

/-! ## 2. Moving by less than a day -/

/-- The clock after a move shows the sum. -/
theorem clockMicros_moveClock {d e : Date} {t u : TimeOfDay} {shift : Int}
    (hlow : -86400000000 < shift) (hhigh : shift < 86400000000)
    (h : moveClock d t shift = some (e, u)) :
    clockMicros e u = clockMicros d t + shift := by
  have ht := t.micros_bound
  rw [moveClock] at h
  split at h
  · obtain ⟨e', he, hu⟩ := Option.map_eq_some_iff.mp h
    obtain ⟨rfl, rfl⟩ := Prod.mk.inj hu
    have hday := Date.ordinal_of_prev? he
    simp only [clockMicros]
    omega
  · split at h
    · obtain ⟨rfl, rfl⟩ := Prod.mk.inj (Option.some.inj h)
      simp only [clockMicros]
      omega
    · obtain ⟨e', he, hu⟩ := Option.map_eq_some_iff.mp h
      obtain ⟨rfl, rfl⟩ := Prod.mk.inj hu
      have hday := Date.ordinal_of_next? he
      simp only [clockMicros]
      omega

/-- A move that stays within the calendar has a result. -/
theorem exists_moveClock {d : Date} {t : TimeOfDay} {shift : Int}
    (h : InCalendar (clockMicros d t + shift)) : ∃ p, moveClock d t shift = some p := by
  rw [inCalendar_iff, clockMicros] at h
  rw [moveClock]
  split
  · rename_i hneg
    obtain ⟨e, he⟩ := Date.exists_prev? (d := d) (by omega)
    exact ⟨_, by rw [he]; rfl⟩
  · split
    · exact ⟨_, rfl⟩
    · rename_i hover
      obtain ⟨e, he⟩ := Date.exists_next? (d := d) (by rw [Date.lastOrdinal]; omega)
      exact ⟨_, by rw [he]; rfl⟩

/-- **Moving a clock is adding to what it shows**, within the calendar. -/
theorem moveClock_eq_some_iff {d e : Date} {t u : TimeOfDay} {shift : Int}
    (hlow : -86400000000 < shift) (hhigh : shift < 86400000000) :
    moveClock d t shift = some (e, u) ↔ clockMicros e u = clockMicros d t + shift := by
  refine ⟨clockMicros_moveClock hlow hhigh, fun h => ?_⟩
  have hmem := inCalendar_clockMicros e u
  rw [h] at hmem
  obtain ⟨⟨e', u'⟩, hp⟩ := exists_moveClock hmem
  have hsum := clockMicros_moveClock hlow hhigh hp
  obtain ⟨rfl, rfl⟩ := clockMicros_inj (hsum.trans h.symm)
  exact hp

theorem moveClock_eq_none_iff {d : Date} {t : TimeOfDay} {shift : Int}
    (hlow : -86400000000 < shift) (hhigh : shift < 86400000000) :
    moveClock d t shift = none ↔ ¬ InCalendar (clockMicros d t + shift) := by
  constructor
  · intro hnone hin
    obtain ⟨p, hp⟩ := exists_moveClock hin
    rw [hp] at hnone
    cases hnone
  · intro hout
    cases hp : moveClock d t shift with
    | none => rfl
    | some p =>
      refine absurd ?_ hout
      rw [← clockMicros_moveClock hlow hhigh hp]
      exact inCalendar_clockMicros p.1 p.2

/-! ## 3. Universal time -/

/-- The clock of universal time shows the instant. -/
theorem utcClock?_eq_some_iff {d e : Date} {t u : TimeOfDay} {o : UtcOffset} :
    utcClock? d t o = some (e, u) ↔
      clockMicros e u = (DateTime.mk d t (some o)).instant := by
  have hlow := o.lower
  have hhigh := o.upper
  exact moveClock_eq_some_iff (by omega) (by omega)

/-- **There is a clock of universal time exactly for the instants within the calendar.** -/
theorem utcClock?_eq_none_iff {d : Date} {t : TimeOfDay} {o : UtcOffset} :
    utcClock? d t o = none ↔ ¬ InCalendar (DateTime.mk d t (some o)).instant := by
  have hlow := o.lower
  have hhigh := o.upper
  exact moveClock_eq_none_iff (by omega) (by omega)

/-- **From universal time back to the own clock.** -/
theorem localClock_utcClock {d e : Date} {t u : TimeOfDay} {o : UtcOffset}
    (h : utcClock? d t o = some (e, u)) : localClock? e u o = some (d, t) := by
  have hinstant : clockMicros e u = clockMicros d t - o.micros := utcClock?_eq_some_iff.mp h
  refine (moveClock_eq_some_iff o.lower o.upper).mpr ?_
  omega

end DateTime

end PeppolStatistics
