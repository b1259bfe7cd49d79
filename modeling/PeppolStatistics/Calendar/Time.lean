import PeppolStatistics.Calendar.Date

/-!
# Times, offsets and points in time

A `TimeOfDay` counts the microseconds since midnight, a `UtcOffset` the microseconds by which a
local clock is ahead of universal time, and a `DateTime` is a local date and time with or without
an offset. Moving a clock by less than a day moves its date by at most one day, so the conversion
to universal time needs only the neighbours of a date.
-/

namespace PeppolStatistics

/-! ## 1. Times of day -/

/-- The microseconds of a day. -/
def dayMicros : Nat := 86400000000

/-- A time of day, in microseconds since midnight. -/
structure TimeOfDay where
  micros : Nat
  micros_lt : micros < dayMicros
deriving DecidableEq, Repr

namespace TimeOfDay

/-- Midnight. -/
def midnight : TimeOfDay := ⟨0, by decide⟩

/-- The hour, from 0 to 23. -/
def hour (t : TimeOfDay) : Nat := t.micros / 3600000000

/-- The minute within the hour. -/
def minute (t : TimeOfDay) : Nat := t.micros / 60000000 % 60

/-- The second within the minute. -/
def second (t : TimeOfDay) : Nat := t.micros / 1000000 % 60

/-- The microsecond within the second. -/
def microsecond (t : TimeOfDay) : Nat := t.micros % 1000000

/-- The time with the given parts, if each lies in its range. -/
def ofParts? (h m s us : Nat) : Option TimeOfDay :=
  if hp : h < 24 ∧ m < 60 ∧ s < 60 ∧ us < 1000000 then
    some ⟨((h * 60 + m) * 60 + s) * 1000000 + us, by unfold dayMicros; omega⟩
  else none

theorem hour_lt (t : TimeOfDay) : t.hour < 24 := by
  have := t.micros_lt
  unfold dayMicros at this
  unfold hour
  omega

@[simp] theorem ofParts?_self (t : TimeOfDay) :
    ofParts? t.hour t.minute t.second t.microsecond = some t := by
  have h := t.hour_lt
  have hp : t.hour < 24 ∧ t.minute < 60 ∧ t.second < 60 ∧ t.microsecond < 1000000 :=
    ⟨h, Nat.mod_lt _ (by decide), Nat.mod_lt _ (by decide), Nat.mod_lt _ (by decide)⟩
  rw [ofParts?, dif_pos hp]
  congr 1
  cases t with
  | mk micros hlt =>
    simp only [hour, minute, second, microsecond, mk.injEq]
    omega

end TimeOfDay

/-! ## 2. Offsets -/

/-- How far a local clock is ahead of universal time, in microseconds; less than a day. -/
structure UtcOffset where
  micros : Int
  lower : -86400000000 < micros
  upper : micros < 86400000000
deriving DecidableEq, Repr

namespace UtcOffset

/-- Universal time itself. -/
def utc : UtcOffset := ⟨0, by decide, by decide⟩

/-- The offset of a number of microseconds, if it is less than a day. -/
def ofMicros? (us : Int) : Option UtcOffset :=
  if h : -86400000000 < us ∧ us < 86400000000 then some ⟨us, h.1, h.2⟩ else none

@[simp] theorem ofMicros?_self (o : UtcOffset) : ofMicros? o.micros = some o := by
  simp [ofMicros?, o.lower, o.upper]

/-- Whether the offset has no seconds. -/
def wholeMinutes (o : UtcOffset) : Bool := o.micros % 60000000 == 0

/-- The minutes of the offset, rounded down. -/
def minutes (o : UtcOffset) : Int := o.micros / 60000000

end UtcOffset

/-! ## 3. Points in time -/

/-- A local date and time, with the offset of the clock where it is known. -/
structure DateTime where
  date : Date
  time : TimeOfDay
  offset : Option UtcOffset
deriving DecidableEq, Repr

namespace DateTime

/-- The date and time of a clock moved by a number of microseconds. The date moves by one day at
    most; nothing is left if it would leave the calendar. -/
def moveClock (d : Date) (t : TimeOfDay) (shift : Int) : Option (Date × TimeOfDay) :=
  let total : Int := t.micros + shift
  let time : TimeOfDay := ⟨(total % 86400000000).toNat, by unfold dayMicros; omega⟩
  if total < 0 then d.prev?.map (·, time)
  else if total < 86400000000 then some (d, time)
  else d.next?.map (·, time)

/-- The clock of universal time at a local time with an offset. -/
def utcClock? (d : Date) (t : TimeOfDay) (o : UtcOffset) : Option (Date × TimeOfDay) :=
  moveClock d t (-o.micros)

/-- The local clock with an offset at a time of universal time. -/
def localClock? (d : Date) (t : TimeOfDay) (o : UtcOffset) : Option (Date × TimeOfDay) :=
  moveClock d t o.micros

/-- The microseconds of the local clock, counted from the day before the calendar begins. -/
def wallMicros (t : DateTime) : Int := (t.date.ordinal : Int) * 86400000000 + t.time.micros

/-- The instant, in microseconds of universal time; a clock without offset counts as universal
    time. -/
def instant (t : DateTime) : Int := t.wallMicros - (t.offset.map (·.micros)).getD 0

/-- Whether two points in time are the same: both without an offset and with the same clock, or
    both with an offset and at the same instant. -/
def same (a b : DateTime) : Bool :=
  a.offset.isSome == b.offset.isSome && a.instant == b.instant

end DateTime

end PeppolStatistics
