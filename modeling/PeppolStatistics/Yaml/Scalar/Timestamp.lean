import PeppolStatistics.Calendar.Iso.Reader
import PeppolStatistics.Yaml.Cursor

/-!
# Timestamps in scalars

A plain scalar may be a date, or a date with a time, a fraction of a second and an offset. The
form is fixed by the digits; whether the parts lie in their ranges is seen only when the point in
time is made.
-/

namespace PeppolStatistics

namespace Yaml

/-! ## 1. The form -/

/-- The time of a timestamp as it is written; the offset in minutes. -/
structure ClockText where
  hour : Nat
  minute : Nat
  second : Nat
  micros : Nat
  offset : Option Int

/-- The parts of a timestamp as they are written. -/
structure TimestampText where
  year : Nat
  month : Nat
  day : Nat
  clock : Option ClockText

/-- A number of one or two digits, and the rest. -/
def shortNumber? (cs : List Char) : Option (Nat × List Char) :=
  (Iso.digits? 2 cs).or (Iso.digits? 1 cs)

/-- The text behind a character. -/
def behind? (c : Char) : List Char → Option (List Char)
  | [] => none
  | d :: rest => if d == c then some rest else none

/-- The microseconds that the digits behind a point denote, of which six count. -/
def microsOf (ds : List Char) : Nat :=
  Numeral.ofDigits 10 (((ds ++ List.replicate 6 '0').take 6).map fun c => c.toNat - 48)

/-- A fraction of a second, which may be missing, and the rest. -/
def fractionOf : List Char → Nat × List Char
  | '.' :: rest =>
    let digit (c : Char) : Bool := '0' ≤ c && c ≤ '9'
    (microsOf (rest.takeWhile digit), rest.dropWhile digit)
  | cs => (0, cs)

/-- The offset at the end of a timestamp, in minutes. Blanks may stand before it. -/
def offsetText? (cs : List Char) : Option (Option Int) :=
  if cs.isEmpty then some none
  else
    match cs.dropWhile isSpaceOrTab with
    | ['Z'] => some (some 0)
    | sign :: rest =>
      if sign == '+' || sign == '-' then do
        let (hours, rest) ← shortNumber? rest
        let minutes ← if rest.isEmpty then some 0 else do
          let (minutes, rest) ← Iso.digits? 2 (← behind? ':' rest)
          if rest.isEmpty then some minutes else none
        let total := Int.ofNat (hours * 60 + minutes)
        some (some (if sign == '-' then -total else total))
      else none
    | [] => none

/-- The time of a timestamp. -/
def clockText? (cs : List Char) : Option ClockText := do
  let (hour, rest) ← shortNumber? cs
  let (minute, rest) ← Iso.digits? 2 (← behind? ':' rest)
  let (second, rest) ← Iso.digits? 2 (← behind? ':' rest)
  let (micros, rest) := fractionOf rest
  let offset ← offsetText? rest
  return ⟨hour, minute, second, micros, offset⟩

/-- The text behind the mark between a date and a time: the letter T or blanks. -/
def behindDate? : List Char → Option (List Char)
  | 'T' :: rest => some rest
  | 't' :: rest => some rest
  | c :: rest => if isSpaceOrTab c then some (rest.dropWhile isSpaceOrTab) else none
  | [] => none

/-- The parts of a timestamp. A date that stands alone has two digits for its month and its
    day. -/
def timestampText? (cs : List Char) : Option TimestampText := do
  let (year, rest) ← Iso.digits? 4 cs
  let (month, rest) ← shortNumber? (← behind? '-' rest)
  let (day, rest) ← shortNumber? (← behind? '-' rest)
  if rest.isEmpty then if cs.length = 10 then some ⟨year, month, day, none⟩ else none
  else
    let clock ← clockText? (← behindDate? rest)
    some ⟨year, month, day, some clock⟩

/-! ## 2. The point in time -/

/-- The offset of a number of minutes, less than a day. -/
def offsetOfMinutes (minutes : Int) : Except DateTextError UtcOffset :=
  match UtcOffset.ofMicros? (minutes * 60000000) with
  | some offset => .ok offset
  | none => .error (.offsetTooLarge (minutes * 60000000))

/-- The point in time with the parts of a date and a time. -/
def TimestampText.dateTime (t : TimestampText) (c : ClockText) : Except DateTextError DateTime := do
  let offset ← match c.offset with
    | none => pure none
    | some minutes => some <$> offsetOfMinutes minutes
  let date ← Date.ofParts t.year t.month t.day
  let time ← TimeOfDay.ofParts c.hour c.minute c.second c.micros
  return ⟨date, time, offset⟩

end Yaml

end PeppolStatistics
