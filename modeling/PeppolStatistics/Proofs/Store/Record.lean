import PeppolStatistics.Proofs.Calendar.Clock
import PeppolStatistics.Proofs.Checks
import PeppolStatistics.Proofs.Item.Check
import PeppolStatistics.Proofs.Value.Dictionary
import PeppolStatistics.Store.Record

/-!
# Items and their records

An item becomes a record with its universal time and the minutes of its offset; the record gives
the item back.

* `ofItem_eq_ok`, `ofItem_eq_error`: the record of an item, column by column, or the overflow if
  its instant lies outside the calendar;
* `toItem_ofClock`: the record gives the item back, whether its time came back with the offset of
  universal time or without one;
* `record_of_item`: both together, for every item and provider;
* `asStored_ofClock`: what the table keeps of the record, namely all but the offset of the time;
* `belongs_ofClock`, `clockOrder_ofClock`: how the table selects and orders it.
-/

namespace PeppolStatistics

namespace StoredRecord

/-! ## 1. The record of an item -/

/-- The record of an item whose universal time is shown by a clock, with or without an offset. -/
def ofClock (i : Item) (provider : Option String) (clock : Date × TimeOfDay)
    (offset : Option UtcOffset) : StoredRecord :=
  ⟨fun
    | .exchangeDatetimeUtc => .dateTime ⟨clock.1, clock.2, offset⟩
    | .exchangeOffsetMinutes => .int i.offset.minutes
    | .exchangeDate => .date i.date
    | .direction => .text i.direction.text
    | .senderScheme => .text i.senderId.scheme
    | .senderValue => .text i.senderId.value
    | .receiverScheme => .text i.receiverId.scheme
    | .receiverValue => .text i.receiverId.value
    | .documentTypeScheme => .text i.documentTypeId.scheme
    | .documentTypeValue => .text i.documentTypeId.value
    | .processScheme => .text i.processId.scheme
    | .processValue => .text i.processId.value
    | .transportProtocol => .text i.transportProtocol
    | .endUserCountryCode => .text i.endUserCountryCode
    | .endUserId => .text i.endUserId
    | .serviceProviderId => (provider.map Value.text).getD .null⟩

/-- The clock of universal time at the exchange of an item. -/
def utcClockOf (i : Item) : Option (Date × TimeOfDay) :=
  DateTime.utcClock? i.date i.time i.offset

theorem ofItem_eq_ok {i : Item} {clock : Date × TimeOfDay} (h : utcClockOf i = some clock)
    (provider : Option String) : ofItem i provider = .ok (ofClock i provider clock (some .utc)) := by
  have h' : DateTime.utcClock? i.date i.time i.offset = some (clock.1, clock.2) := h
  rw [ofItem, h']
  rfl

theorem ofItem_eq_error {i : Item} (h : utcClockOf i = none) (provider : Option String) :
    ofItem i provider = .error .overflow := by
  have h' : DateTime.utcClock? i.date i.time i.offset = none := h
  rw [ofItem, h']

/-- The instant of an item lies within the calendar exactly if universal time has a clock for
    it. -/
theorem utcClockOf_eq_none_iff {i : Item} :
    utcClockOf i = none ↔ ¬ DateTime.InCalendar i.exchangedAt.instant :=
  DateTime.utcClock?_eq_none_iff

theorem exists_utcClockOf {i : Item} (h : DateTime.InCalendar i.exchangedAt.instant) :
    ∃ clock, utcClockOf i = some clock := by
  cases hc : utcClockOf i with
  | none => exact absurd h (utcClockOf_eq_none_iff.mp hc)
  | some clock => exact ⟨clock, rfl⟩

/-- The clock of universal time shows the instant of the item. -/
theorem clockMicros_utcClockOf {i : Item} {clock : Date × TimeOfDay}
    (h : utcClockOf i = some clock) :
    DateTime.clockMicros clock.1 clock.2 = i.exchangedAt.instant :=
  DateTime.utcClock?_eq_some_iff.mp h

/-! ## 2. Back to the item -/

/-- The minutes of an offset without seconds are the whole offset. -/
theorem offsetOf_minutes {o : UtcOffset} (ho : o.wholeMinutes = true) :
    offsetOf (.int o.minutes) = .ok o := by
  have hmod : o.micros % 60000000 = 0 := by simpa [UtcOffset.wholeMinutes] using ho
  have hmicros : o.minutes * 60000000 = o.micros := by
    rw [UtcOffset.minutes]
    omega
  have hlow := o.lower
  have hhigh := o.upper
  have hspan : spanOfMinutes (.int o.minutes) = .ok o.micros := by
    show spanOfMinutes.checkSpan (o.minutes * 60000000) = .ok o.micros
    rw [hmicros, spanOfMinutes.checkSpan, if_pos (by rw [spanLimit]; omega)]
  rw [offsetOf, hspan, ok_bind]
  simp only [UtcOffset.ofMicros?_self]
  rfl

/-- From a clock of universal time to the clock with an offset. -/
theorem onClock_utc {d e : Date} {t u : TimeOfDay} {o : UtcOffset}
    (h : DateTime.localClock? e u o = some (d, t)) :
    onClock e u .utc o = .ok ⟨d, t, some o⟩ := by
  have hstay : DateTime.moveClock e u 0 = some (e, u) :=
    (DateTime.moveClock_eq_some_iff (by decide) (by decide)).mpr (Int.add_zero _).symm
  by_cases ho : UtcOffset.utc = o
  · subst ho
    have hsame : (e, u) = (d, t) := Option.some.inj (hstay.symm.trans h)
    obtain ⟨rfl, rfl⟩ := Prod.mk.inj hsame
    rw [onClock, if_pos rfl]
  · have hutc : DateTime.utcClock? e u .utc = some (e, u) := hstay
    rw [onClock, if_neg ho, hutc]
    simp only [h]

theorem timestampOf_utc {d : Date} {t : TimeOfDay} {o : Option UtcOffset}
    (ho : o = none ∨ o = some .utc) :
    timestampOf (.dateTime ⟨d, t, o⟩) = .ok (d, t, .utc) := by
  rcases ho with rfl | rfl
  · rfl
  · rfl

theorem identifierIn_eq_ok {i : Identifier} {r : StoredRecord} {scheme value : Column}
    (hs : r.value scheme = .text i.scheme) (hv : r.value value = .text i.value) :
    r.identifierIn scheme value = .ok i := by
  rw [identifierIn, hs, hv]
  exact Identifier.make_self i

/-- **The record of an item gives the item back**, whether its time came back with the offset of
    universal time or without one. -/
theorem toItem_ofClock {i : Item} {clock : Date × TimeOfDay} (h : utcClockOf i = some clock)
    (provider : Option String) {o : Option UtcOffset} (ho : o = none ∨ o = some .utc) :
    (ofClock i provider clock o).toItem = .ok i := by
  let r := ofClock i provider clock o
  have hlocal : DateTime.localClock? clock.1 clock.2 i.offset = some (i.date, i.time) :=
    DateTime.localClock_utcClock h
  have htime : timestampOf (r.value .exchangeDatetimeUtc) = .ok (clock.1, clock.2, .utc) :=
    timestampOf_utc ho
  have hoffset : offsetOf (r.value .exchangeOffsetMinutes) = .ok i.offset :=
    offsetOf_minutes i.offset_wholeMinutes
  have hsender : r.identifierIn .senderScheme .senderValue = .ok i.senderId :=
    identifierIn_eq_ok rfl rfl
  have hreceiver : r.identifierIn .receiverScheme .receiverValue = .ok i.receiverId :=
    identifierIn_eq_ok rfl rfl
  have hdocument : r.identifierIn .documentTypeScheme .documentTypeValue =
      .ok i.documentTypeId := identifierIn_eq_ok rfl rfl
  have hprocess : r.identifierIn .processScheme .processValue = .ok i.processId :=
    identifierIn_eq_ok rfl rfl
  rw [show ofClock i provider clock o = r from rfl, toItem]
  simp only [htime, hoffset, onClock_utc hlocal, hsender, hreceiver, hdocument, hprocess, ok_bind]
  exact Candidate.Describes.check_eq_ok ⟨rfl, rfl, rfl, rfl, rfl, rfl, rfl, rfl, rfl⟩

/-- Without its offset the time of a record is still that of the same clock. -/
theorem set_ofClock (i : Item) (provider : Option String) (clock : Date × TimeOfDay)
    (o : Option UtcOffset) :
    (ofClock i provider clock o).set .exchangeDatetimeUtc (.dateTime ⟨clock.1, clock.2, none⟩) =
      ofClock i provider clock none := by
  refine congrArg StoredRecord.mk (funext fun c => ?_)
  cases c
  all_goals rfl

/-! ## 3. Every item -/

/-- **From the item to its record and back.** An item whose instant lies within the calendar has a
    record; the record holds the own date of the item, the service provider and the instant as
    universal time, and it gives the item back with all its fields, its own clock and its offset,
    whether the time came back with the offset of universal time or without one. Of any other
    item there is no record. -/
theorem record_of_item (i : Item) (provider : Option String) :
    (DateTime.InCalendar i.exchangedAt.instant →
      ∃ r d t,
        ofItem i provider = .ok r ∧
        r.value .exchangeDate = .date i.date ∧
        r.value .serviceProviderId = (provider.map Value.text).getD .null ∧
        r.value .exchangeDatetimeUtc = .dateTime ⟨d, t, some .utc⟩ ∧
        (DateTime.mk d t (some .utc)).instant = i.exchangedAt.instant ∧
        r.toItem = .ok i ∧
        (r.set .exchangeDatetimeUtc (.dateTime ⟨d, t, none⟩)).toItem = .ok i) ∧
    (¬ DateTime.InCalendar i.exchangedAt.instant → ofItem i provider = .error .overflow) := by
  constructor
  · intro hin
    obtain ⟨clock, hclock⟩ := exists_utcClockOf hin
    refine ⟨ofClock i provider clock (some .utc), clock.1, clock.2, ofItem_eq_ok hclock provider,
      rfl, rfl, rfl, ?_, toItem_ofClock hclock provider (.inr rfl), ?_⟩
    · have hinstant := clockMicros_utcClockOf hclock
      show DateTime.clockMicros clock.1 clock.2 - 0 = i.exchangedAt.instant
      omega
    · rw [set_ofClock]
      exact toItem_ofClock hclock provider (.inl rfl)
  · intro hout
    exact ofItem_eq_error (utcClockOf_eq_none_iff.mpr hout) provider

/-- An invoice exchanged in the last microsecond of the year 9999 on a clock with some offset. -/
def lastInvoice (offset : UtcOffset) (ho : offset.wholeMinutes = true) : Item :=
  { invoice .sending ⟨"scheme", "value", by decide, by decide⟩ "DE" (by decide) with
    date := DateTime.latest.date
    time := DateTime.latest.time
    offset := offset
    offset_wholeMinutes := ho }

/-- On a clock five hours and 45 minutes ahead the last microsecond is recorded and comes back; on
    a clock one minute behind it lies outside the calendar. -/
theorem record_of_lastInvoice :
    (∃ r, ofItem (lastInvoice ⟨20700000000, by decide, by decide⟩ (by decide)) (some "A") = .ok r ∧
      r.toItem = .ok (lastInvoice ⟨20700000000, by decide, by decide⟩ (by decide))) ∧
    ofItem (lastInvoice ⟨-60000000, by decide, by decide⟩ (by decide)) none =
      .error .overflow := by
  constructor
  · obtain ⟨r, _, _, hr, _, _, _, _, hback, _⟩ :=
      (record_of_item (lastInvoice ⟨20700000000, by decide, by decide⟩ (by decide))
        (some "A")).1 (by decide)
    exact ⟨r, hr, hback⟩
  · exact (record_of_item (lastInvoice ⟨-60000000, by decide, by decide⟩ (by decide)) none).2
      (by decide)

/-! ## 4. In the table -/

/-- What the table keeps of a record is known column by column. -/
theorem asStored_eq_ok {r kept : StoredRecord}
    (h : ∀ c, storedValue c (r.value c) = .ok (kept.value c))
    (hnull : ∀ c, c ≠ .serviceProviderId → (kept.value c).isNull = false) :
    r.asStored = .ok kept := by
  have hchecks : (Column.all.forM fun c => do
      let _ ← storedValue c (r.value c) : Except Failure Unit) = .ok () := by
    refine forM_eq_ok fun c => ?_
    rw [h c]
    rfl
  have hkept : ∀ c, (storedValue c (r.value c)).toOption.getD .null = kept.value c := by
    intro c
    rw [h c]
    rfl
  have hfull : (Column.all.all fun c =>
      c = .serviceProviderId || !(kept.value c).isNull) = true := by
    rw [List.all_eq_true]
    intro c _
    by_cases hc : c = .serviceProviderId
    · simp [hc]
    · simp [hnull c hc]
  rw [asStored, hchecks]
  simp only [ok_bind, hkept]
  rw [if_pos hfull]
  rfl

/-- The minutes of an offset fit a column of numbers. -/
theorem fits_minutes (o : UtcOffset) : fits o.minutes = true := by
  have hlow := o.lower
  have hhigh := o.upper
  have hrange : -1440 ≤ o.minutes ∧ o.minutes < 1440 := by
    rw [UtcOffset.minutes]
    omega
  have hlimits : -numberLimit ≤ o.minutes ∧ o.minutes < numberLimit := by
    rw [numberLimit]
    omega
  simp [fits, hlimits]

/-- **The table keeps all of the record of an item but the offset of its time.** -/
theorem asStored_ofClock (i : Item) (provider : Option String) (clock : Date × TimeOfDay)
    (o : Option UtcOffset) :
    (ofClock i provider clock o).asStored = .ok (ofClock i provider clock none) := by
  refine asStored_eq_ok (fun c => ?_) (fun c hc => ?_)
  · cases c with
    | exchangeOffsetMinutes =>
      show (bound (.int i.offset.minutes)).map inNumberColumn = .ok (.int i.offset.minutes)
      rw [bound, if_pos (fits_minutes i.offset)]
      rfl
    | serviceProviderId =>
      cases provider with
      | none => rfl
      | some s => rfl
    | _ => rfl
  · cases c with
    | serviceProviderId => exact absurd rfl hc
    | _ => rfl

theorem isTimed_ofClock (i : Item) (provider : Option String) (clock : Date × TimeOfDay)
    (o : Option UtcOffset) : (ofClock i provider clock o).isTimed = true := rfl

/-- The table selects the record of an item by the own date of the item and by its provider. -/
theorem belongs_ofClock (p : ReportPeriod) (asked : Option String) (i : Item)
    (provider : Option String) (clock : Date × TimeOfDay) (o : Option UtcOffset) :
    (ofClock i provider clock o).belongs p asked =
      (p.contains i.date && decide (asked = none ∨ provider = asked)) := by
  let tag : Value := (provider.map Value.text).getD .null
  cases asked with
  | none =>
    show (p.contains i.date && true) = _
    simp
  | some s =>
    have htag : tag.same (.text s) = decide (provider = some s) := by
      cases provider with
      | none => simp [tag, Value.same, Value.sameLeaf, Value.asText?]
      | some s' => simp [tag, beq_eq_decide]
    show (p.contains i.date && tag.same (.text s)) = _
    rw [htag]
    simp

/-- The table orders the record of an item by its instant. -/
theorem clockOrder_ofClock {i : Item} {clock : Date × TimeOfDay} (h : utcClockOf i = some clock)
    (provider : Option String) (o : Option UtcOffset) :
    (ofClock i provider clock o).clockOrder = i.exchangedAt.instant :=
  clockMicros_utcClockOf h

end StoredRecord

end PeppolStatistics
