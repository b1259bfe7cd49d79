import PeppolStatistics.Text.Quoted
import PeppolStatistics.Calendar.Iso.Writer

/-!
# Reading ISO 8601 text

Dates are read in the extended and in the basic form, by calendar day or by week. A point in time
is a date, one character of any kind, and a time with an optional offset; a fraction of a second
may have any number of digits, of which six count. Part 3 locates the character between date and
time, part 4 reads the clock, part 5 joins them. An offset is written like a time, or `Z`.
-/

namespace PeppolStatistics

open Numeral

/-! ## 1. Errors -/

/-- Why a text is no date or no point in time. -/
inductive DateTextError where
  /-- The text, as it is shown in messages, does not have the form. -/
  | malformed (shown : String)
  | offsetTooLarge (micros : Int)
  | yearOutOfRange (year : Int)
  | monthOutOfRange
  | dayOutOfRange
  | hourOutOfRange
  | minuteOutOfRange
  | secondOutOfRange
deriving DecidableEq, Repr

/-- The wording of an error. -/
def DateTextError.message : DateTextError → String
  | .malformed shown => "Invalid isoformat string: " ++ shown
  | .offsetTooLarge us =>
    "offset must be a timedelta strictly between -timedelta(hours=24) and timedelta(hours=24), not "
      ++ spanLiteral us ++ "."
  | .yearOutOfRange y => "year " ++ toString y ++ " is out of range"
  | .monthOutOfRange => "month must be in 1..12"
  | .dayOutOfRange => "day is out of range for month"
  | .hourOutOfRange => "hour must be in 0..23"
  | .minuteOutOfRange => "minute must be in 0..59"
  | .secondOutOfRange => "second must be in 0..59"

/-- The date with the given parts; the first part out of its range is named. -/
def Date.ofParts (y m d : Nat) : Except DateTextError Date :=
  if hy : 1 ≤ y ∧ y ≤ 9999 then
    if hm : 1 ≤ m ∧ m ≤ 12 then
      if hd : 1 ≤ d ∧ d ≤ daysInMonth y m then .ok ⟨y, m, d, hy, hm, hd⟩
      else .error .dayOutOfRange
    else .error .monthOutOfRange
  else .error (.yearOutOfRange y)

/-- The time with the given parts; the first part out of its range is named. -/
def TimeOfDay.ofParts (h m s us : Nat) : Except DateTextError TimeOfDay :=
  if h < 24 then
    if m < 60 then
      if s < 60 then .ok ((TimeOfDay.ofParts? h m s us).getD .midnight)
      else .error .secondOutOfRange
    else .error .minuteOutOfRange
  else .error .hourOutOfRange

namespace Iso

/-! ## 2. Dates -/

/-- The number written by the first `n` characters, which are ASCII digits, and the rest. -/
def digits? : Nat → List Char → Option (Nat × List Char)
  | n, cs => do
    let ds ← (cs.take n).mapM asciiDigit?
    if ds.length = n then some (ofDigits 10 ds, cs.drop n) else none

/-- The digit of the day in the week: the first character, after a hyphen in the extended form.
    A date that ends after the week means its first day. -/
def weekDay? (extended ends : Bool) (cs : List Char) : Option Nat :=
  if ends then some 1
  else if extended then
    match cs with
    | '-' :: rest => (digits? 1 rest).map (·.1)
    | _ => none
  else (digits? 1 cs).map (·.1)

/-- Year, month and day of a date that stands at the beginning of a text and has `size`
    characters. In the extended form hyphens stand between the parts. -/
def dateParts? (size : Nat) (cs : List Char) : Option (Nat × Nat × Nat) := do
  let (y, rest) ← digits? 4 cs
  let extended := rest.head? == some '-'
  let rest := if extended then rest.drop 1 else rest
  match rest with
  | 'W' :: rest =>
    let (w, rest) ← digits? 2 rest
    let d ← weekDay? extended (size ≤ cs.length - rest.length) rest
    Date.partsOfWeek? y w d
  | _ =>
    let (m, rest) ← digits? 2 rest
    if extended && rest.head? != some '-' then none
    else
      let (d, _) ← digits? 2 (if extended then rest.drop 1 else rest)
      some (y, m, d)

/-- The date that a text holds. The text has 7, 8 or 10 bytes; what follows a basic date of 8
    characters is not read. -/
def date (cs : List Char) : Except DateTextError Date :=
  let text := String.ofList cs
  let size := text.utf8ByteSize
  if size == 7 || size == 8 || size == 10 then
    match dateParts? size cs with
    | some (y, m, d) => Date.ofParts y m d
    | none => .error (.malformed (quoted text))
  else .error (.malformed (quoted text))

/-! ## 3. The place between date and time -/

/-- Whether a character is an ASCII digit. -/
def isDigit (c : Char) : Bool := '0' ≤ c && c ≤ '9'

/-- The number of characters of the date at the beginning of a text. Calendar dates are told apart
    by their fifth character. In week dates the day may be missing: in the extended form a hyphen
    after the week begins the day unless two digits follow it, in the basic form the number of
    digits decides, since the digits of a time come in pairs. -/
def dateSize? (cs : List Char) : Option Nat :=
  if cs.length < 7 then none
  else if cs.length = 7 then some 7
  else if cs[4]? == some '-' then
    if cs[5]? == some 'W' then
      if cs[8]? == some '-' then
        if cs.length = 9 then none
        else if (cs[10]?.map isDigit).getD false then some 8 else some 10
      else some 8
    else some 10
  else if cs[4]? == some 'W' then
    let stop := 7 + ((cs.drop 7).takeWhile isDigit).length
    if stop < 9 then some stop else if stop % 2 = 0 then some 7 else some 8
  else some 8

/-! ## 4. Clocks -/

/-- The number of microseconds that the digits of a fraction denote: six digits count. -/
def fraction? (cs : List Char) : Option (Nat × List Char) :=
  let n := min 6 cs.length
  (digits? n cs).map fun (v, rest) => (v * Nat.pow 10 (6 - n), rest.dropWhile isDigit)

/-- The parts of a clock and whether characters are left over behind it. -/
structure Clock where
  hour : Nat
  minute : Nat
  second : Nat
  micros : Nat
  leftOver : Bool
deriving DecidableEq, Repr

/-- The parts of a clock from the hour on, as a list: at most `n` pairs of digits, separated by
    colons or by nothing, then a fraction. One character behind the last pair is left over. The
    answer ends with the microseconds. -/
def clockParts? : Nat → Option Bool → List Char → Option (List Nat × Nat × Bool)
  | 0, _, cs => (fraction? cs).map fun (us, rest) =>
      ([], us, rest != [] && rest.head? != some '\x00')
  | n + 1, known, cs => do
    let (v, rest) ← digits? 2 cs
    match rest with
    | [] => some ([v], 0, false)
    | c :: after =>
      let colons := known.getD (c == ':')
      if after.isEmpty && c.toNat < 128 then some ([v], 0, c != '\x00')
      else if colons && c == ':' then
        (clockParts? n (some colons) after).map fun (vs, r) => (v :: vs, r)
      else if c == '.' || c == ',' then
        (fraction? after).map fun (us, rest) =>
          ([v], us, rest != [] && rest.head? != some '\x00')
      else if !colons then
        (clockParts? n (some colons) rest).map fun (vs, r) => (v :: vs, r)
      else none

/-- The clock that a text holds; parts that are not written are zero. -/
def clock? (cs : List Char) : Option Clock :=
  (clockParts? 3 none cs).map fun (vs, us, leftOver) =>
    ⟨vs[0]?.getD 0, vs[1]?.getD 0, vs[2]?.getD 0, us, leftOver⟩

/-- Whether a character begins an offset. -/
def beginsOffset (c : Char) : Bool := c == '+' || c == '-' || c == 'Z'

/-- The microseconds of an offset, which begins with its sign or is `Z`. An offset without whole
    seconds is universal time, whatever its fraction. -/
def offset? : List Char → Option Int
  | 'Z' :: rest => if rest.isEmpty || rest.head? == some '\x00' then some 0 else none
  | sign :: rest => do
    let c ← clock? rest
    if c.leftOver then none
    else
      let seconds : Int := (c.hour * 60 + c.minute) * 60 + c.second
      let us : Int := if seconds = 0 then 0 else seconds * 1000000 + c.micros
      some (if sign == '-' then -us else us)
  | [] => none

/-- A time with its offset, if it has one. Only in front of an offset may a character be left
    over. -/
def timeParts? (cs : List Char) : Option (Clock × Option Int) := do
  let body := cs.takeWhile fun c => !beginsOffset c
  let rest := cs.dropWhile fun c => !beginsOffset c
  let c ← clock? body
  if rest.isEmpty then (if c.leftOver then none else some (c, none))
  else (offset? rest).map fun us => (c, some us)

/-! ## 5. Points in time -/

/-- Date, clock and offset of a text; a text that ends with its date means midnight. -/
def dateTimeParts? (cs : List Char) : Option ((Nat × Nat × Nat) × Clock × Option Int) := do
  let size ← dateSize? cs
  let d ← dateParts? size cs
  match cs.drop size with
  | [] => some (d, ⟨0, 0, 0, 0, false⟩, none)
  | _ :: rest =>
    let (c, o) ← timeParts? rest
    some (d, c, o)

/-- The point in time that a text holds. The offset is checked first, then the date, then the
    time. -/
def dateTime (cs : List Char) : Except DateTextError DateTime :=
  match dateTimeParts? cs with
  | none => .error (.malformed (quoted (String.ofList cs)))
  | some ((y, m, d), c, o) => do
    let offset ← match o with
      | none => pure none
      | some us =>
        match UtcOffset.ofMicros? us with
        | some offset => pure (some offset)
        | none => .error (.offsetTooLarge us)
    let date ← Date.ofParts y m d
    let time ← TimeOfDay.ofParts c.hour c.minute c.second c.micros
    pure ⟨date, time, offset⟩

end Iso

/-- The date that an ISO 8601 text holds. -/
def Date.ofIso (s : String) : Except DateTextError Date := Iso.date s.toList

/-- The point in time that an ISO 8601 text holds. -/
def DateTime.ofIso (s : String) : Except DateTextError DateTime := Iso.dateTime s.toList

end PeppolStatistics
