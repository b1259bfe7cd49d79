import PeppolStatistics.Value.Dates
import PeppolStatistics.Value.Equality

/-!
# Candidates for items

The values that are to become an item are of any kind until they have been checked. A `Candidate`
holds one value for each field; `check` makes an item of it or names the first field with a
defect. Candidates come from a caller, from a builder whose fields are set one by one, or from a
dictionary of texts.
-/

namespace PeppolStatistics

/-! ## 1. Fields -/

/-- The fields of an item, in the order of the item. -/
inductive ItemField where
  | exchangeDatetime
  | direction
  | senderId
  | receiverId
  | documentTypeId
  | processId
  | transportProtocol
  | endUserCountryCode
  | endUserId
deriving DecidableEq, Repr

namespace ItemField

/-- All fields. -/
def all : List ItemField :=
  [.exchangeDatetime, .direction, .senderId, .receiverId, .documentTypeId, .processId,
   .transportProtocol, .endUserCountryCode, .endUserId]

/-- The name of a field. -/
def name : ItemField → String
  | .exchangeDatetime => "exchange_datetime"
  | .direction => "direction"
  | .senderId => "sender_id"
  | .receiverId => "receiver_id"
  | .documentTypeId => "document_type_id"
  | .processId => "process_id"
  | .transportProtocol => "transport_protocol"
  | .endUserCountryCode => "end_user_country_code"
  | .endUserId => "end_user_id"

/-- The field with a name. -/
def ofName? (s : String) : Option ItemField := all.find? fun f => f.name == s

@[simp] theorem ofName?_name (f : ItemField) : ofName? f.name = some f := by
  cases f <;> simp [ofName?, all, name]

end ItemField

/-! ## 2. Checking -/

/-- One value for each field of an item. -/
abbrev Candidate := ItemField → Value

namespace Candidate

/-- The candidate with another value in one field. -/
def set (c : Candidate) (f : ItemField) (v : Value) : Candidate := fun g => if g = f then v else c g

@[simp] theorem set_same (c : Candidate) (f : ItemField) (v : Value) : c.set f v f = v := by
  simp [set]

theorem set_other {f g : ItemField} (h : g ≠ f) (c : Candidate) (v : Value) :
    c.set f v g = c g := by simp [set, h]

/-- The failure that names a field. -/
def defect (f : ItemField) (d : Defect) : Failure := .invalid f.name d

/-- The identifier in a field. -/
def identifierIn (c : Candidate) (f : ItemField) : Except Failure Identifier :=
  match c f with
  | .identifier i => .ok i
  | _ => .error (defect f .notIdentifier)

/-- The direction in a field: the direction itself or its text. -/
def directionIn (c : Candidate) (f : ItemField) : Except Failure Direction :=
  match (c f).asText?.bind Direction.ofText? with
  | some d => .ok d
  | none => .error ((c f).refusal fun shown => defect f (.unknownDirection shown))

/-- The text in a field, which must not be blank. -/
def textIn (c : Candidate) (f : ItemField) :
    Except Failure { s : String // Text.hasText s = true } :=
  match (c f).asText? with
  | some s => if h : Text.hasText s = true then .ok ⟨s, h⟩ else .error (defect f .empty)
  | none => .error (defect f .empty)

/-- The country code in a field. -/
def countryIn (c : Candidate) (f : ItemField) :
    Except Failure { s : String // isCountryCode s = true } :=
  match (c f).asText? with
  | some s =>
    if h : isCountryCode s = true then .ok ⟨s, h⟩
    else .error ((c f).refusal fun shown => defect f (.notCountryCode shown))
  | none => .error ((c f).refusal fun shown => defect f (.notCountryCode shown))

/-- The point in time in a field, with its offset, which has no seconds. -/
def timestampIn (c : Candidate) (f : ItemField) :
    Except Failure (Date × TimeOfDay × { o : UtcOffset // o.wholeMinutes = true }) :=
  match c f with
  | .dateTime ⟨d, t, some o⟩ =>
    if h : o.wholeMinutes = true then .ok (d, t, ⟨o, h⟩)
    else .error (defect f .offsetWithSeconds)
  | .dateTime ⟨_, _, none⟩ => .error (defect f .noOffset)
  | _ => .error (defect f .notTimestamp)

/-- The item that a candidate makes. The fields are checked in the order of the item. -/
def check (c : Candidate) : Except Failure Item := do
  let (date, time, offset) ← c.timestampIn .exchangeDatetime
  let direction ← c.directionIn .direction
  let senderId ← c.identifierIn .senderId
  let receiverId ← c.identifierIn .receiverId
  let documentTypeId ← c.identifierIn .documentTypeId
  let processId ← c.identifierIn .processId
  let transportProtocol ← c.textIn .transportProtocol
  let country ← c.countryIn .endUserCountryCode
  let endUserId ← c.textIn .endUserId
  return {
    date, time, offset := offset.1, direction, senderId, receiverId, documentTypeId, processId
    transportProtocol := transportProtocol.1
    endUserCountryCode := country.1
    endUserId := endUserId.1
    offset_wholeMinutes := offset.2
    transportProtocol_hasText := transportProtocol.2
    endUserCountryCode_isCode := country.2
    endUserId_hasText := endUserId.2 }

end Candidate

/-- The fields of an item as a candidate. -/
def Item.toCandidate (i : Item) : Candidate
  | .exchangeDatetime => .dateTime i.exchangedAt
  | .direction => .direction i.direction
  | .senderId => .identifier i.senderId
  | .receiverId => .identifier i.receiverId
  | .documentTypeId => .identifier i.documentTypeId
  | .processId => .identifier i.processId
  | .transportProtocol => .text i.transportProtocol
  | .endUserCountryCode => .text i.endUserCountryCode
  | .endUserId => .text i.endUserId

/-! ## 3. Builders -/

/-- An item in the making: the fields that were set. -/
structure ItemBuilder where
  value? : ItemField → Option Value

namespace ItemBuilder

/-- The builder in which nothing is set. -/
def empty : ItemBuilder := ⟨fun _ => none⟩

/-- Sets a field. -/
def set (b : ItemBuilder) (f : ItemField) (v : Value) : ItemBuilder :=
  ⟨fun g => if g = f then some v else b.value? g⟩

@[simp] theorem value?_set (b : ItemBuilder) (f g : ItemField) (v : Value) :
    (b.set f v).value? g = if g = f then some v else b.value? g := rfl

/-- The first field that was not set. -/
def firstMissing? (b : ItemBuilder) : Option ItemField :=
  ItemField.all.find? fun f => (b.value? f).isNone

/-- The item with the fields that were set; each must be. -/
def build (b : ItemBuilder) : Except Failure Item :=
  match b.firstMissing? with
  | some f => .error (.invalid f.name .missing)
  | none => Candidate.check fun f => (b.value? f).getD .null

end ItemBuilder

/-! ## 4. Dictionaries -/

namespace Identifier

/-- The identifier whose scheme and value are values; only texts hold text. -/
def ofValues (scheme value : Value) : Except Failure Identifier :=
  make (scheme.asText?.getD "") (value.asText?.getD "")

/-- The identifier whose written form is a value; only a text is one. -/
def ofValue (v : Value) : Except Failure Identifier :=
  match v.asText?.bind fun s => splitSeparator? s.toList with
  | some (scheme, value) => make (String.ofList scheme) (String.ofList value)
  | none => .error (v.refusal fun shown => .invalid "identifier URI" (.notSchemeValue shown))

end Identifier

namespace Item

/-- What is said of a value that is no dictionary when a field is looked up in it. -/
def noFieldsText (v : Value) : String :=
  let notSubscriptable (typeName : String) : String :=
    "'" ++ typeName ++ "' object is not subscriptable"
  match v with
  | .list _ => "list indices must be integers or slices, not str"
  | .tuple _ => "tuple indices must be integers or slices, not str"
  | .date _ => notSubscriptable "datetime.date"
  | .dateTime _ => notSubscriptable "datetime.datetime"
  | v =>
    if v.asText?.isSome then "string indices must be integers, not 'str'"
    else notSubscriptable v.typeName

/-- The value of a field in a dictionary. -/
def lookupField (data : Value) (f : ItemField) : Except Failure Value :=
  match data with
  | .dict entries =>
    match Value.lookup? (.text f.name) entries with
    | some v => .ok v
    | none => .error (.invalid f.name .missing)
  | v => .error (.invalid "exchange_datetime" (.unreadable (noFieldsText v)))

/-- A point in time, given as such or as ISO text. -/
def readTimestamp (v : Value) : Except Failure Value :=
  match v with
  | .dateTime t => .ok (.dateTime t)
  | v =>
    match v.asText? with
    | none =>
      .error (.invalid "exchange_datetime" (.unreadable "fromisoformat: argument must be str"))
    | some s =>
      match DateTime.ofIso s with
      | .ok t => .ok (.dateTime t)
      | .error (.malformed _) =>
        .error (v.refusal fun shown =>
          .invalid "exchange_datetime" (.unreadable (DateTextError.malformed shown).message))
      | .error e => .error (.invalid "exchange_datetime" (.unreadable e.message))

/-- The item in a dictionary: the time as such or as text, the identifiers in their written form.
    Further entries are ignored. -/
def readFields (data : Value) : Except Failure Item := do
  let timestamp ← readTimestamp (← lookupField data .exchangeDatetime)
  let direction ← lookupField data .direction
  let senderId ← Identifier.ofValue (← lookupField data .senderId)
  let receiverId ← Identifier.ofValue (← lookupField data .receiverId)
  let documentTypeId ← Identifier.ofValue (← lookupField data .documentTypeId)
  let processId ← Identifier.ofValue (← lookupField data .processId)
  let transportProtocol ← lookupField data .transportProtocol
  let country ← lookupField data .endUserCountryCode
  let endUserId ← lookupField data .endUserId
  Candidate.check fun
    | .exchangeDatetime => timestamp
    | .direction => direction
    | .senderId => .identifier senderId
    | .receiverId => .identifier receiverId
    | .documentTypeId => .identifier documentTypeId
    | .processId => .identifier processId
    | .transportProtocol => transportProtocol
    | .endUserCountryCode => country
    | .endUserId => endUserId

/-- How a failure to read a dictionary is reported: one without a field is put down to the time. -/
def attributed (e : Failure) : Failure :=
  match e.kind with
  | .type | .value => .invalid "exchange_datetime" (.unreadable e.text)
  | _ => e

/-- The item in a dictionary, with every failure attributed to a field. -/
def ofDict (data : Value) : Except Failure Item := (readFields data).mapError attributed

/-- An item as a dictionary of texts. -/
def toDict (i : Item) : Value := .dict (i.toEntries.map fun e => (.text e.1, .text e.2))

end Item

/-! ## 5. Collections -/

namespace Collection

/-- The items among some values, numbered from `index` on; every value must be one. -/
def checkItems : Nat → List Value → Except Failure (List Item)
  | _, [] => .ok []
  | index, v :: vs =>
    let field := "items[" ++ toString index ++ "]"
    match v with
    | .item i => do return i :: (← checkItems (index + 1) vs)
    | .null => .error (.invalid field .nullItem)
    | v => .error (.invalid field (.notAnItem v.typeName))

/-- The collection of the items that a value runs through. -/
def ofValue (v : Value) : Except Failure Collection :=
  match v with
  | .null => .error (.invalid "items" .noItems)
  | v =>
    match v.elements? with
    | none => .error .wrongType
    | some vs => (checkItems 0 vs).map Collection.mk

end Collection

end PeppolStatistics
