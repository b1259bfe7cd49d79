import PeppolStatistics.Text.Numeral
import PeppolStatistics.Calendar.Time

/-!
# Dates and times as ISO 8601 text

The written form of dates, times, offsets and points in time: extended format, the fraction of a
second only where there is one, the seconds of an offset only where there are any. The second part
holds the form in which messages show a date as a value.
-/

namespace PeppolStatistics

open Numeral

/-! ## 1. The written form -/

namespace Date

/-- The date as year, month and day with hyphens. -/
def isoChars (d : Date) : List Char :=
  fixedDigits 4 d.year ++ '-' :: fixedDigits 2 d.month ++ '-' :: fixedDigits 2 d.day

/-- The text of a date. -/
def iso (d : Date) : String := String.ofList d.isoChars

end Date

namespace TimeOfDay

/-- The time to the second, with six places of a fraction if it has one. -/
def isoChars (t : TimeOfDay) : List Char :=
  fixedDigits 2 t.hour ++ ':' :: fixedDigits 2 t.minute ++ ':' :: fixedDigits 2 t.second
    ++ (if t.microsecond = 0 then [] else '.' :: fixedDigits 6 t.microsecond)

end TimeOfDay

namespace UtcOffset

/-- The offset with its sign, to the minute, and further only where it has seconds. -/
def isoChars (o : UtcOffset) : List Char :=
  let us := o.micros.natAbs
  (if o.micros < 0 then '-' else '+')
    :: fixedDigits 2 (us / 3600000000) ++ ':' :: fixedDigits 2 (us / 60000000 % 60)
    ++ (if us % 60000000 = 0 then []
        else ':' :: fixedDigits 2 (us / 1000000 % 60)
          ++ (if us % 1000000 = 0 then [] else '.' :: fixedDigits 6 (us % 1000000)))

end UtcOffset

namespace DateTime

/-- Date and time with a character between them, and the offset if there is one. -/
def charsWith (separator : Char) (t : DateTime) : List Char :=
  t.date.isoChars ++ separator :: t.time.isoChars ++ (t.offset.map (·.isoChars)).getD []

/-- Date and time with the letter `T` between them. -/
def isoChars (t : DateTime) : List Char := t.charsWith 'T'

/-- The text of a point in time. -/
def iso (t : DateTime) : String := String.ofList t.isoChars

/-- The text with a space between date and time. -/
def spaced (t : DateTime) : String := String.ofList (t.charsWith ' ')

end DateTime

/-! ## 2. The form as a value -/

/-- A span of microseconds as a value: days, seconds and microseconds, each only if it is not
    zero, with the days rounded down. -/
def spanLiteral (us : Int) : String :=
  let days := us / 86400000000
  let seconds := us % 86400000000 / 1000000
  let micros := us % 1000000
  let parts :=
    (if days = 0 then [] else ["days=" ++ toString days])
      ++ (if seconds = 0 then [] else ["seconds=" ++ toString seconds])
      ++ (if micros = 0 then [] else ["microseconds=" ++ toString micros])
  "datetime.timedelta(" ++ (if parts.isEmpty then "0" else ", ".intercalate parts) ++ ")"

/-- A date as a value. -/
def Date.literal (d : Date) : String :=
  "datetime.date(" ++ ", ".intercalate ([d.year, d.month, d.day].map toString) ++ ")"

/-- An offset as a value. -/
def UtcOffset.literal (o : UtcOffset) : String :=
  if o.micros = 0 then "datetime.timezone.utc"
  else "datetime.timezone(" ++ spanLiteral o.micros ++ ")"

/-- A point in time as a value: the seconds and microseconds only as far as they are needed. -/
def DateTime.literal (t : DateTime) : String :=
  let us := t.time.microsecond
  let s := t.time.second
  let parts := [t.date.year, t.date.month, t.date.day, t.time.hour, t.time.minute]
    ++ (if us ≠ 0 then [s, us] else if s ≠ 0 then [s] else [])
  "datetime.datetime(" ++ ", ".intercalate
    (parts.map toString ++ (t.offset.map fun o => ["tzinfo=" ++ o.literal]).getD []) ++ ")"

end PeppolStatistics
