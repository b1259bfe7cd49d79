import PeppolStatistics.Item.Candidate

/-!
# Stored records

An item is stored as one record: the time of the exchange as universal time next to the minutes of
its offset, the date of its own calendar, and the other fields as plain texts. An item can be
stored if its universal time lies within the calendar; reading the record gives it back with its
own clock. A record that was not made from an item may hold anything.
-/

namespace PeppolStatistics

/-! ## 1. Columns -/

/-- The columns of a record. -/
inductive Column where
  | exchangeDatetimeUtc
  | exchangeOffsetMinutes
  | exchangeDate
  | direction
  | senderScheme
  | senderValue
  | receiverScheme
  | receiverValue
  | documentTypeScheme
  | documentTypeValue
  | processScheme
  | processValue
  | transportProtocol
  | endUserCountryCode
  | endUserId
  | serviceProviderId
deriving DecidableEq, Repr

namespace Column

/-- All columns, in the order of the table. -/
def all : List Column :=
  [.exchangeDatetimeUtc, .exchangeOffsetMinutes, .exchangeDate, .direction, .senderScheme,
   .senderValue, .receiverScheme, .receiverValue, .documentTypeScheme, .documentTypeValue,
   .processScheme, .processValue, .transportProtocol, .endUserCountryCode, .endUserId,
   .serviceProviderId]

/-- The name of a column. -/
def name : Column → String
  | .exchangeDatetimeUtc => "exchange_datetime_utc"
  | .exchangeOffsetMinutes => "exchange_offset_minutes"
  | .exchangeDate => "exchange_date"
  | .direction => "direction"
  | .senderScheme => "sender_scheme"
  | .senderValue => "sender_value"
  | .receiverScheme => "receiver_scheme"
  | .receiverValue => "receiver_value"
  | .documentTypeScheme => "document_type_scheme"
  | .documentTypeValue => "document_type_value"
  | .processScheme => "process_scheme"
  | .processValue => "process_value"
  | .transportProtocol => "transport_protocol"
  | .endUserCountryCode => "end_user_country_code"
  | .endUserId => "end_user_id"
  | .serviceProviderId => "service_provider_id"

/-- The column with a name. -/
def ofName? (s : String) : Option Column := all.find? fun c => c.name == s

@[simp] theorem ofName?_name (c : Column) : ofName? c.name = some c := by
  cases c <;> simp [ofName?, all, name]

end Column

/-- One record: a value for each column. -/
structure StoredRecord where
  value : Column → Value

namespace StoredRecord

/-- The record with another value in one column. -/
def set (r : StoredRecord) (c : Column) (v : Value) : StoredRecord :=
  ⟨fun d => if d = c then v else r.value d⟩

@[simp] theorem value_set (r : StoredRecord) (c d : Column) (v : Value) :
    (r.set c v).value d = if d = c then v else r.value d := rfl

/-- The columns of a record with their values. -/
def toEntries (r : StoredRecord) : List (String × Value) :=
  Column.all.map fun c => (c.name, r.value c)

/-- A record in messages: date, direction and country. -/
def text (r : StoredRecord) : Except Failure String := do
  return "<ReportingItemRecord " ++ (← (r.value .exchangeDate).toText) ++ " "
    ++ (← (r.value .direction).toText) ++ " " ++ (← (r.value .endUserCountryCode).toText) ++ ">"

/-! ## 2. From items -/

/-- The record of an item, tagged with the service provider it was recorded for. The universal
    time must lie within the calendar. -/
def ofItem (i : Item) (provider : Option String) : Except Failure StoredRecord :=
  match DateTime.utcClock? i.date i.time i.offset with
  | none => .error .overflow
  | some (d, t) =>
    .ok ⟨fun
      | .exchangeDatetimeUtc => .dateTime ⟨d, t, some .utc⟩
      | .exchangeOffsetMinutes => .int i.offset.minutes
      | .exchangeDate => .date i.date
      | .direction => .text i.direction.text
      | .senderScheme => .text i.senderId.scheme
      | .senderValue => .text i.senderId.value
      | .receiverScheme => .text i.receiverId.scheme
      | .receiverValue => .text i.receiverId.value
      | .documentTypeScheme => .text i.documentTypeId.scheme
      | .documentTypeValue => .text i.documentTypeId.value
      | .processScheme => .text i.processId.scheme
      | .processValue => .text i.processId.value
      | .transportProtocol => .text i.transportProtocol
      | .endUserCountryCode => .text i.endUserCountryCode
      | .endUserId => .text i.endUserId
      | .serviceProviderId => (provider.map Value.text).getD .null⟩

/-! ## 3. To items -/

/-- The greatest number of days in a span of time. -/
def spanLimit : Int := 999999999

/-- The microseconds of a number of minutes. -/
def spanOfMinutes (v : Value) : Except Failure Int :=
  match v.asNumber with
  | .int n => checkSpan (n * 60000000)
  | .real x =>
    match x.toRational? with
    | some (n, d) =>
      let us := Int.ofNat (Binary64.roundQuotient (n.natAbs * 60000000) d)
      checkSpan (if n < 0 then -us else us)
    | none => .error .overflow
  | _ => .error .wrongType
where
  /-- Refuses a span with too many days. -/
  checkSpan (us : Int) : Except Failure Int :=
    if -(spanLimit * 86400000000) ≤ us ∧ us < (spanLimit + 1) * 86400000000 then .ok us
    else .error .overflow

/-- The offset of a number of minutes. -/
def offsetOf (v : Value) : Except Failure UtcOffset := do
  let us ← spanOfMinutes v
  match UtcOffset.ofMicros? us with
  | some o => return o
  | none => throw (.dateText (.offsetTooLarge us))

/-- The point in time in a column; one without offset is universal time. -/
def timestampOf (v : Value) : Except Failure (Date × TimeOfDay × UtcOffset) :=
  match v with
  | .dateTime ⟨d, t, some o⟩ => .ok (d, t, o)
  | .dateTime ⟨d, t, none⟩ => .ok (d, t, .utc)
  | _ => .error .noSuchAttribute

/-- A point in time on the clock with another offset. -/
def onClock (d : Date) (t : TimeOfDay) (own target : UtcOffset) : Except Failure DateTime :=
  if own = target then .ok ⟨d, t, some target⟩
  else
    match DateTime.utcClock? d t own with
    | none => .error .overflow
    | some (d, t) =>
      match DateTime.localClock? d t target with
      | none => .error .overflow
      | some (d, t) => .ok ⟨d, t, some target⟩

/-- The identifier in two columns. -/
def identifierIn (r : StoredRecord) (scheme value : Column) : Except Failure Identifier :=
  Identifier.ofValues (r.value scheme) (r.value value)

/-- The item in a record. -/
def toItem (r : StoredRecord) : Except Failure Item := do
  let (d, t, stored) ← timestampOf (r.value .exchangeDatetimeUtc)
  let offset ← offsetOf (r.value .exchangeOffsetMinutes)
  let timestamp ← onClock d t stored offset
  let senderId ← r.identifierIn .senderScheme .senderValue
  let receiverId ← r.identifierIn .receiverScheme .receiverValue
  let documentTypeId ← r.identifierIn .documentTypeScheme .documentTypeValue
  let processId ← r.identifierIn .processScheme .processValue
  Candidate.check fun
    | .exchangeDatetime => .dateTime timestamp
    | .direction => r.value .direction
    | .senderId => .identifier senderId
    | .receiverId => .identifier receiverId
    | .documentTypeId => .identifier documentTypeId
    | .processId => .identifier processId
    | .transportProtocol => r.value .transportProtocol
    | .endUserCountryCode => r.value .endUserCountryCode
    | .endUserId => r.value .endUserId

/-! ## 4. In the table -/

/-- The clock of a point in time without its offset; a date is its midnight. -/
def wallClock? : Value → Option DateTime
  | .dateTime t => some { t with offset := none }
  | .date d => some ⟨d, .midnight, none⟩
  | _ => none

/-- The calendar date of a date or a point in time. -/
def plainDate? : Value → Option Date
  | .dateTime t => some t.date
  | .date d => some d
  | _ => none

/-- The greatest number of the database, from which on the other sign begins. -/
def numberLimit : Int := 9223372036854775808

/-- Whether a whole number fits the database. -/
def fits (n : Int) : Bool := -numberLimit ≤ n && n < numberLimit

/-- A number with a fraction as a column of whole numbers keeps it: as a whole number if it is one
    and lies between the limits. -/
def ofReal (x : Binary64) : Value :=
  match x.toInt? with
  | some n => if -numberLimit < n && n < numberLimit then .int n else .real x
  | none => .real x

/-- The exponent of ten in a text, zero if there is none. -/
def exponentIn? : List Char → Option Int
  | [] => some 0
  | e :: rest =>
    let digits (ds : List Char) : Option Int := do
      if ds.isEmpty then none
      else return Numeral.ofDigits 10 (← ds.mapM Numeral.asciiDigit?)
    if e == 'e' || e == 'E' then
      match rest with
      | '-' :: ds => (digits ds).map (-·)
      | '+' :: ds => digits ds
      | ds => digits ds
    else none

/-- The number that a text is to a column of whole numbers: digits with a sign, a point and an
    exponent, and blanks around them. -/
def numberIn? (s : String) : Option Value := do
  let cs := Text.trimBy (fun c => c == ' ' || '\t' ≤ c && c ≤ '\r') s.toList
  let negative := cs.head? == some '-'
  let body := if negative || cs.head? == some '+' then cs.drop 1 else cs
  let isDigit (c : Char) : Bool := (Numeral.asciiDigit? c).isSome
  let whole := body.takeWhile isDigit
  let behind := body.dropWhile isDigit
  let pointed := behind.head? == some '.'
  let places := if pointed then (behind.drop 1).takeWhile isDigit else []
  let tail := if pointed then (behind.drop 1).dropWhile isDigit else behind
  let m := Numeral.ofDigits 10 (← (whole ++ places).mapM Numeral.asciiDigit?)
  let e ← exponentIn? tail
  let n : Int := if negative then -Int.ofNat m else Int.ofNat m
  if (whole ++ places).isEmpty then none
  else if behind.isEmpty && fits n then return .int n
  else
    return ofReal (.ofDecimal negative m (e - places.length))

/-- A value as the database takes it; points in time become texts. -/
def bound (v : Value) : Except Failure Value :=
  match v with
  | .null => .ok .null
  | .bool b => .ok (.int (if b then 1 else 0))
  | .int n => if fits n then .ok (.int n) else .error .overflow
  | .real x => .ok (.real x)
  | .date d => .ok (.text d.iso)
  | .dateTime t => .ok (.text t.spaced)
  | v =>
    match v.asText? with
    | some s => .ok (.text s)
    | none => .error .unsupportedValue

/-- What the database takes as a column of texts keeps it. -/
def inTextColumn : Value → Value
  | .int n => .text (toString n)
  | .real x => .text x.text
  | v => v

/-- What the database takes as a column of whole numbers keeps it. -/
def inNumberColumn : Value → Value
  | .real x => ofReal x
  | .text s => (numberIn? s).getD (.text s)
  | v => v

/-- A value as a column keeps it: the offset of a time is not kept. -/
def storedValue (c : Column) (v : Value) : Except Failure Value :=
  match c with
  | .exchangeDatetimeUtc => .ok (((wallClock? v).map Value.dateTime).getD .null)
  | .exchangeDate => .ok (((plainDate? v).map Value.date).getD .null)
  | .exchangeOffsetMinutes => (bound v).map inNumberColumn
  | _ => (bound v).map inTextColumn

/-- Whether the columns of times and dates hold such or nothing. -/
def isTimed (r : StoredRecord) : Bool :=
  let time := r.value .exchangeDatetimeUtc
  let date := r.value .exchangeDate
  (time.isNull || (wallClock? time).isSome) && (date.isNull || (plainDate? date).isSome)

/-- A record as the table keeps it. Every column but the last must have a value. -/
def asStored (r : StoredRecord) : Except Failure StoredRecord := do
  Column.all.forM fun c => do let _ ← storedValue c (r.value c)
  let stored : StoredRecord := ⟨fun c => (storedValue c (r.value c)).toOption.getD .null⟩
  if Column.all.all fun c => c = .serviceProviderId || !(stored.value c).isNull then return stored
  else throw .brokenRow

/-- Whether a record belongs to a period, and to a service provider if one is asked for. -/
def belongs (p : ReportPeriod) (provider : Option String) (r : StoredRecord) : Bool :=
  (match plainDate? (r.value .exchangeDate) with
    | some d => p.contains d
    | none => false)
  && match provider with
    | none => true
    | some s => (r.value .serviceProviderId).same (.text s)

/-- The place of a record in the order of time. -/
def clockOrder (r : StoredRecord) : Int :=
  match wallClock? (r.value .exchangeDatetimeUtc) with
  | some t => t.wallMicros
  | none => 0

end StoredRecord

end PeppolStatistics
