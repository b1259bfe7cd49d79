import Mathlib.Data.List.Induction
import PeppolStatistics.Proofs.Item.Check
import PeppolStatistics.Store.Record

/-!
# Where items come from

An item is made from the values of its fields, by the calls of a builder, from a dictionary, or
from a stored record (`Origin`). All four end in one check, so they differ only in the values
that reach it (`Origin.Reads`).

* `Candidate.collect_eq_ok_iff`: values read field by field, the first failure ending the reading;
* `ItemBuilder.value?_calls`: a builder keeps, of every field, the value it was last given;
* `Item.readFields_eq`, `StoredRecord.toItem_eq`: a dictionary and a record are read field by field
  and then checked;
* `Origin.item_sound`: which items each way gives, when it gives one, and what holds of every item.
-/

namespace PeppolStatistics

/-! ## 1. Field by field -/

/-- The candidate whose values are read one by one, in the order of the item. -/
def Candidate.collect (read : ItemField → Except Failure Value) : Except Failure Candidate := do
  let exchangeDatetime ← read .exchangeDatetime
  let direction ← read .direction
  let senderId ← read .senderId
  let receiverId ← read .receiverId
  let documentTypeId ← read .documentTypeId
  let processId ← read .processId
  let transportProtocol ← read .transportProtocol
  let endUserCountryCode ← read .endUserCountryCode
  let endUserId ← read .endUserId
  return fun
    | .exchangeDatetime => exchangeDatetime
    | .direction => direction
    | .senderId => senderId
    | .receiverId => receiverId
    | .documentTypeId => documentTypeId
    | .processId => processId
    | .transportProtocol => transportProtocol
    | .endUserCountryCode => endUserCountryCode
    | .endUserId => endUserId

/-- **Values are collected exactly if every field can be read.** -/
theorem Candidate.collect_eq_ok_iff {read : ItemField → Except Failure Value} {c : Candidate} :
    collect read = .ok c ↔ ∀ f, read f = .ok (c f) := by
  constructor
  · intro h
    obtain ⟨exchangeDatetime, hexchange, h⟩ := bind_eq_ok.mp h
    obtain ⟨direction, hdirection, h⟩ := bind_eq_ok.mp h
    obtain ⟨senderId, hsender, h⟩ := bind_eq_ok.mp h
    obtain ⟨receiverId, hreceiver, h⟩ := bind_eq_ok.mp h
    obtain ⟨documentTypeId, hdocumentType, h⟩ := bind_eq_ok.mp h
    obtain ⟨processId, hprocess, h⟩ := bind_eq_ok.mp h
    obtain ⟨transportProtocol, hprotocol, h⟩ := bind_eq_ok.mp h
    obtain ⟨country, hcountry, h⟩ := bind_eq_ok.mp h
    obtain ⟨endUserId, huser, h⟩ := bind_eq_ok.mp h
    obtain rfl := Except.ok.inj h
    intro f
    cases f
    all_goals assumption
  · intro h
    simp only [collect, h, ok_bind]
    refine congrArg Except.ok (funext fun f => ?_)
    cases f
    all_goals rfl

/-! ## 2. Builders -/

/-- The calls by which a builder is set up: a field with a value, or a field with the value that
    the call stands for. -/
inductive BuilderCall where
  | set (f : ItemField) (v : Value)
  | directionSending
  | directionReceiving
  | transportProtocolAs4

/-- The field that a call sets, with its value. -/
def BuilderCall.given : BuilderCall → ItemField × Value
  | .set f v => (f, v)
  | .directionSending => (.direction, .direction .sending)
  | .directionReceiving => (.direction, .direction .receiving)
  | .transportProtocolAs4 => (.transportProtocol, .text Identifier.transportProtocolAs4)

/-- The value that the last call for a field gave it. -/
def lastGiven? (calls : List BuilderCall) (f : ItemField) : Option Value :=
  (calls.map BuilderCall.given).reverse.lookup f

theorem lastGiven?_concat (calls : List BuilderCall) (call : BuilderCall) (f : ItemField) :
    lastGiven? (calls ++ [call]) f =
      if f = call.given.1 then some call.given.2 else lastGiven? calls f := by
  rw [lastGiven?, List.map_append, List.reverse_append]
  show List.lookup f ((call.given.1, call.given.2) :: (calls.map BuilderCall.given).reverse) = _
  rw [List.lookup_cons]
  by_cases h : f = call.given.1
  · simp [h]
  · simp [h, beq_false_of_ne h, lastGiven?]

theorem ItemField.mem_all (f : ItemField) : f ∈ all := by
  cases f
  all_goals decide

namespace ItemBuilder

/-- The builder after a call. -/
def call (b : ItemBuilder) (k : BuilderCall) : ItemBuilder := b.set k.given.1 k.given.2

/-- The builder after some calls. -/
def afterCalls (calls : List BuilderCall) : ItemBuilder := calls.foldl call empty

/-- **A builder keeps, of every field, the value it was last given.** -/
theorem value?_calls (calls : List BuilderCall) (f : ItemField) :
    (afterCalls calls).value? f = lastGiven? calls f := by
  induction calls using List.reverseRecOn with
  | nil => rfl
  | append_singleton calls k ih =>
    rw [afterCalls, List.foldl_append, lastGiven?_concat, ← ih]
    exact value?_set _ _ _ _

/-- A builder gives an item exactly if all fields are set and their values give it. -/
theorem build_eq_ok_iff {b : ItemBuilder} {i : Item} :
    b.build = .ok i ↔ ∃ c : Candidate, (∀ f, b.value? f = some (c f)) ∧ c.check = .ok i := by
  constructor
  · intro h
    rw [build] at h
    split at h
    next => cases h
    next hmissing =>
      refine ⟨_, fun f => ?_, h⟩
      have hset := List.find?_eq_none.mp hmissing f f.mem_all
      cases hv : b.value? f with
      | none => exact absurd (by rw [hv]; rfl) hset
      | some v => rfl
  · rintro ⟨c, hset, hcheck⟩
    have hmissing : b.firstMissing? = none := List.find?_eq_none.mpr fun f _ => by simp [hset f]
    have hvalues : (fun f => (b.value? f).getD .null) = c := funext fun f => by
      rw [hset f, Option.getD_some]
    rw [build, hmissing]
    show Candidate.check _ = _
    rw [hvalues, hcheck]

end ItemBuilder

/-! ## 3. Dictionaries -/

namespace Item

/-- The value that a dictionary gives to a field: the time read from its text, the identifiers
    from their written form. -/
def readField (data : Value) : ItemField → Except Failure Value
  | .exchangeDatetime => do readTimestamp (← lookupField data .exchangeDatetime)
  | .senderId => do return .identifier (← Identifier.ofValue (← lookupField data .senderId))
  | .receiverId => do return .identifier (← Identifier.ofValue (← lookupField data .receiverId))
  | .documentTypeId => do
    return .identifier (← Identifier.ofValue (← lookupField data .documentTypeId))
  | .processId => do return .identifier (← Identifier.ofValue (← lookupField data .processId))
  | .direction => lookupField data .direction
  | .transportProtocol => lookupField data .transportProtocol
  | .endUserCountryCode => lookupField data .endUserCountryCode
  | .endUserId => lookupField data .endUserId

/-- A dictionary is read field by field and then checked. -/
theorem readFields_eq (data : Value) :
    readFields data = Candidate.collect (readField data) >>= Candidate.check := by
  -- the fields are read in the order of the item, so both chains are the same once flattened
  simp only [Candidate.collect, readField, bind_assoc, pure_bind]
  rfl

end Item

/-! ## 4. Records -/

namespace StoredRecord

/-- The value that a record gives to a field: the time on the clock with the offset, the
    identifiers from two columns each. -/
def readField (r : StoredRecord) : ItemField → Except Failure Value
  | .exchangeDatetime => do
    let (d, t, stored) ← timestampOf (r.value .exchangeDatetimeUtc)
    let offset ← offsetOf (r.value .exchangeOffsetMinutes)
    return .dateTime (← onClock d t stored offset)
  | .senderId => do return .identifier (← r.identifierIn .senderScheme .senderValue)
  | .receiverId => do return .identifier (← r.identifierIn .receiverScheme .receiverValue)
  | .documentTypeId => do
    return .identifier (← r.identifierIn .documentTypeScheme .documentTypeValue)
  | .processId => do return .identifier (← r.identifierIn .processScheme .processValue)
  | .direction => return r.value .direction
  | .transportProtocol => return r.value .transportProtocol
  | .endUserCountryCode => return r.value .endUserCountryCode
  | .endUserId => return r.value .endUserId

/-- A record is read field by field and then checked. -/
theorem toItem_eq (r : StoredRecord) :
    r.toItem = Candidate.collect r.readField >>= Candidate.check := by
  -- the fields whose columns are taken as they are cannot fail and drop out
  simp only [Candidate.collect, readField, bind_assoc, pure_bind]
  rfl

end StoredRecord

/-! ## 5. Every way -/

/-- A way to come by an item, with the values that are given to it. -/
inductive Origin where
  | values (given : Candidate)
  | calls (made : List BuilderCall)
  | dictionary (data : Value)
  | record (r : StoredRecord)

namespace Origin

/-- The item that comes about. -/
def item : Origin → Except Failure Item
  | .values given => given.check
  | .calls made => (ItemBuilder.afterCalls made).build
  | .dictionary data => Item.ofDict data
  | .record r => r.toItem

/-- The values that reach the check: each field has one. -/
def Reads : Origin → Candidate → Prop
  | .values given, c => c = given
  | .calls made, c => ∀ f, lastGiven? made f = some (c f)
  | .dictionary data, c => ∀ f, Item.readField data f = .ok (c f)
  | .record r, c => ∀ f, r.readField f = .ok (c f)

/-- Whichever way is taken, an item is made by the check of the values read. -/
theorem item_eq_ok_iff {o : Origin} {i : Item} :
    o.item = .ok i ↔ ∃ c, o.Reads c ∧ c.check = .ok i := by
  cases o with
  | values given => exact ⟨fun h => ⟨given, rfl, h⟩, fun ⟨_, hc, h⟩ => hc ▸ h⟩
  | calls made =>
    refine ItemBuilder.build_eq_ok_iff.trans (exists_congr fun c => ?_)
    simp only [ItemBuilder.value?_calls]
    rfl
  | dictionary data =>
    show Item.ofDict data = .ok i ↔ _
    rw [Item.ofDict, mapError_eq_ok, Item.readFields_eq, bind_eq_ok]
    simp only [Candidate.collect_eq_ok_iff]
    rfl
  | record r =>
    show r.toItem = .ok i ↔ _
    rw [StoredRecord.toItem_eq, bind_eq_ok]
    simp only [Candidate.collect_eq_ok_iff]
    rfl

end Origin

/-- **What holds of every item**, its country code apart. -/
structure Item.Sound (i : Item) : Prop where
  /-- The time carries an offset of whole minutes. -/
  clock : ∃ o, i.exchangedAt.offset = some o ∧ o.InMinutes
  /-- The direction is one of the two. -/
  direction : i.direction = .sending ∨ i.direction = .receiving
  /-- No scheme and no value of an identifier is blank. -/
  identifiers : ∀ id ∈ [i.senderId, i.receiverId, i.documentTypeId, i.processId],
    NotBlank id.scheme ∧ NotBlank id.value
  /-- Neither the transport protocol nor the end user is blank. -/
  texts : NotBlank i.transportProtocol ∧ NotBlank i.endUserId

theorem Item.sound (i : Item) : i.Sound where
  clock := ⟨i.offset, rfl, UtcOffset.inMinutes_iff.mpr i.offset_wholeMinutes⟩
  direction := by
    cases i.direction with
    | sending => exact .inl rfl
    | receiving => exact .inr rfl
  identifiers := fun id _ =>
    ⟨notBlank_iff.mpr id.scheme_hasText, notBlank_iff.mpr id.value_hasText⟩
  texts := ⟨notBlank_iff.mpr i.transportProtocol_hasText, notBlank_iff.mpr i.endUserId_hasText⟩

namespace Origin

/-- **Every way to an item.** From whatever values, the item is the one whose values were read,
    and there is one exactly if every field could be read and its value obeys the rule of the
    field. Every item is sound, and its country code is two capital letters or these with a line
    end after them. -/
theorem item_sound (o : Origin) :
    (∀ i, o.item = .ok i ↔ ∃ c, o.Reads c ∧ c.Describes i) ∧
    ((∃ i, o.item = .ok i) ↔ ∃ c, o.Reads c ∧ c.Valid) ∧
    ∀ i, o.item = .ok i → i.Sound ∧
      (TwoCapitals i.endUserCountryCode ∨
        ∃ t, TwoCapitals t ∧ i.endUserCountryCode = t ++ "\n") := by
  refine ⟨fun i => ?_, ?_, fun i _ => ⟨i.sound, isCountryCode_iff.mp i.endUserCountryCode_isCode⟩⟩
  · simp only [item_eq_ok_iff, Candidate.check_eq_ok_iff]
  · simp only [item_eq_ok_iff, ← Candidate.exists_check_eq_ok_iff]
    exact ⟨fun ⟨i, c, hread, hcheck⟩ => ⟨c, hread, i, hcheck⟩,
      fun ⟨c, hread, i, hcheck⟩ => ⟨i, c, hread, hcheck⟩⟩

/-- An invoice of a Finnish end user, with a line end after the country code. -/
def finnishInvoice : Item :=
  invoice .receiving ⟨"peppol-doctype-wildcard", "self-billing", by decide, by decide⟩ "FI\n"
    (by decide)

/-- All fields of the invoice set one by one, and the direction, which was wrong, once more. -/
def invoiceCalls : List BuilderCall :=
  .directionSending :: (ItemField.all.map fun f => .set f (finnishInvoice.toCandidate f)) ++
    [.directionSending, .directionReceiving]

/-- The builder gives the invoice, which is sound but for the line end. -/
theorem item_sound_invoiceCalls :
    (calls invoiceCalls).item = .ok finnishInvoice ∧ finnishInvoice.Sound := by
  have hitem : (calls invoiceCalls).item = .ok finnishInvoice := rfl
  exact ⟨hitem, ((item_sound (calls invoiceCalls)).2.2 finnishInvoice hitem).1⟩

/-- **Not every country code is two letters**: the line end after them is let through. -/
theorem item_not_twoCapitals :
    ¬ ∀ (o : Origin) (i : Item), o.item = .ok i → i.Sound ∧ TwoCapitals i.endUserCountryCode := by
  intro h
  obtain ⟨-, a, b, -, -, hcode⟩ := h (.values finnishInvoice.toCandidate) finnishInvoice rfl
  have hlength : finnishInvoice.endUserCountryCode.toList.length = 2 := by
    rw [hcode, String.toList_ofList]
    rfl
  exact absurd hlength (by decide)

end Origin

end PeppolStatistics
