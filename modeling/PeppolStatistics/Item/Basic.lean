import PeppolStatistics.Identifier

/-!
# Reporting items

A reporting item records the exchange of one business document. Its rules are part of the type:
the time of the exchange carries an offset of whole minutes, every identifier and text holds text,
and the country code consists of two capital letters (a line end after them is let through).
-/

namespace PeppolStatistics

/-! ## 1. Directions -/

/-- The direction of an exchange, seen from the reporting service provider. -/
inductive Direction where
  | sending
  | receiving
deriving DecidableEq, Repr

namespace Direction

/-- The text of a direction. -/
def text : Direction → String
  | .sending => "sending"
  | .receiving => "receiving"

/-- The direction with a text. -/
def ofText? (s : String) : Option Direction :=
  if s = "sending" then some .sending else if s = "receiving" then some .receiving else none

@[simp] theorem ofText?_text (d : Direction) : ofText? d.text = some d := by
  cases d <;> simp [ofText?, text]

/-- The name of a direction as a member of its class. -/
def memberName : Direction → String
  | .sending => "Direction.SENDING"
  | .receiving => "Direction.RECEIVING"

end Direction

/-! ## 2. Country codes -/

/-- Whether a character is a capital letter of the Latin alphabet. -/
def isCapital (c : Char) : Bool := 'A' ≤ c && c ≤ 'Z'

/-- Whether a text is taken as a country code: two capital letters, with or without a line end
    after them. -/
def isCountryCode (s : String) : Bool :=
  match s.toList with
  | [a, b] => isCapital a && isCapital b
  | [a, b, '\n'] => isCapital a && isCapital b
  | _ => false

/-! ## 3. Items -/

/-- The record of one exchange. -/
structure Item where
  date : Date
  time : TimeOfDay
  offset : UtcOffset
  direction : Direction
  senderId : Identifier
  receiverId : Identifier
  documentTypeId : Identifier
  processId : Identifier
  transportProtocol : String
  endUserCountryCode : String
  endUserId : String
  offset_wholeMinutes : offset.wholeMinutes = true
  transportProtocol_hasText : Text.hasText transportProtocol = true
  endUserCountryCode_isCode : isCountryCode endUserCountryCode = true
  endUserId_hasText : Text.hasText endUserId = true
deriving Repr

namespace Item

/-- The fields of an item without its rules. -/
def parts (i : Item) : (Date × TimeOfDay × UtcOffset × Direction) ×
    (Identifier × Identifier × Identifier × Identifier) × (String × String × String) :=
  ((i.date, i.time, i.offset, i.direction),
   (i.senderId, i.receiverId, i.documentTypeId, i.processId),
   (i.transportProtocol, i.endUserCountryCode, i.endUserId))

theorem parts_inj {a b : Item} (h : a.parts = b.parts) : a = b := by
  cases a
  cases b
  simp only [parts, Prod.mk.injEq] at h
  obtain ⟨⟨h₁, h₂, h₃, h₄⟩, ⟨h₅, h₆, h₇, h₈⟩, h₉, h₁₀, h₁₁⟩ := h
  subst h₁ h₂ h₃ h₄ h₅ h₆ h₇ h₈ h₉ h₁₀ h₁₁
  rfl

instance : DecidableEq Item := fun a b =>
  if h : a.parts = b.parts then isTrue (parts_inj h)
  else isFalse fun e => h (e ▸ rfl)

/-- The time of the exchange. -/
def exchangedAt (i : Item) : DateTime := ⟨i.date, i.time, some i.offset⟩

/-- Whether the document was sent. -/
def isSending (i : Item) : Bool := i.direction == .sending

/-- Whether the document was received. -/
def isReceiving (i : Item) : Bool := i.direction == .receiving

/-- The fields of an item with their texts, in the order of the item. -/
def toEntries (i : Item) : List (String × String) :=
  [("exchange_datetime", i.exchangedAt.iso),
   ("direction", i.direction.text),
   ("sender_id", i.senderId.uri),
   ("receiver_id", i.receiverId.uri),
   ("document_type_id", i.documentTypeId.uri),
   ("process_id", i.processId.uri),
   ("transport_protocol", i.transportProtocol),
   ("end_user_country_code", i.endUserCountryCode),
   ("end_user_id", i.endUserId)]

/-- Whether two items are the same record: all fields agree, and the exchanges are the same
    instant. -/
def same (a b : Item) : Bool :=
  a.exchangedAt.same b.exchangedAt && a.direction == b.direction && a.senderId == b.senderId
    && a.receiverId == b.receiverId && a.documentTypeId == b.documentTypeId
    && a.processId == b.processId && a.transportProtocol == b.transportProtocol
    && a.endUserCountryCode == b.endUserCountryCode && a.endUserId == b.endUserId

end Item

/-- A read-only batch of items. -/
structure Collection where
  items : List Item
deriving DecidableEq, Repr

namespace Collection

/-- The collection without items. -/
def empty : Collection := ⟨[]⟩

/-- Whether the collection has no items. -/
def isEmpty (c : Collection) : Bool := c.items.isEmpty

/-- The collection as a value in messages. -/
def text (c : Collection) : String :=
  "<ReportingItemCollection items=" ++ toString c.items.length ++ ">"

end Collection

end PeppolStatistics
