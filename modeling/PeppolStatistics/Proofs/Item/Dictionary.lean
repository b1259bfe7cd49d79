import PeppolStatistics.Proofs.Calendar.Iso
import PeppolStatistics.Proofs.Checks
import PeppolStatistics.Proofs.Identifier.Separator
import PeppolStatistics.Proofs.Item.Check
import PeppolStatistics.Proofs.Value.Dictionary

/-!
# Items as dictionaries

An item is written as a dictionary of texts and read back from it. All fields come back as they
were, the local date and time and the offset included, except that the identifiers are split anew
(`readFields_toDict`). So the item comes back exactly if each of its identifiers does
(`ofDict_toDict_eq_ok_iff`).
-/

namespace PeppolStatistics

namespace Item

/-! ## 1. The texts of the fields -/

/-- The text of a field. -/
def fieldText (i : Item) : ItemField → String
  | .exchangeDatetime => i.exchangedAt.iso
  | .direction => i.direction.text
  | .senderId => i.senderId.uri
  | .receiverId => i.receiverId.uri
  | .documentTypeId => i.documentTypeId.uri
  | .processId => i.processId.uri
  | .transportProtocol => i.transportProtocol
  | .endUserCountryCode => i.endUserCountryCode
  | .endUserId => i.endUserId

/-- **Every field of the dictionary is found**, with its text. -/
theorem lookupField_toDict (i : Item) (f : ItemField) :
    lookupField i.toDict f = .ok (.text (i.fieldText f)) := by
  have hentries : i.toEntries = ItemField.all.map fun g => (g.name, i.fieldText g) := rfl
  have hfind : (i.toEntries.find? fun e => e.1 == f.name) = some (f.name, i.fieldText f) := by
    rw [hentries, List.find?_map]
    show (ItemField.ofName? f.name).map _ = _
    rw [ItemField.ofName?_name]
    rfl
  simp only [lookupField, toDict, Value.lookup?_texts, hfind, Option.map_some]

/-! ## 2. Reading the fields -/

/-- The time of the exchange is read back as it was: its offset has no seconds. -/
theorem readTimestamp_text (i : Item) :
    readTimestamp (.text i.exchangedAt.iso) = .ok (.dateTime i.exchangedAt) := by
  have hread : DateTime.ofIso i.exchangedAt.iso = .ok i.exchangedAt := by
    rw [DateTime.ofIso_iso, exchangedAt, Option.map_some,
      UtcOffset.written_of_wholeMinutes i.offset_wholeMinutes]
  simp only [readTimestamp, Value.asText?, hread]

/-- An identifier in a dictionary is read like its written form. -/
theorem ofValue_text (s : String) : Identifier.ofValue (.text s) = Identifier.parse s := rfl

/-- **The item in the dictionary of an item**: all fields are as they were, and each identifier is
    split anew. -/
theorem readFields_toDict (i : Item) :
    readFields i.toDict = do
      let senderId ← Identifier.parse i.senderId.uri
      let receiverId ← Identifier.parse i.receiverId.uri
      let documentTypeId ← Identifier.parse i.documentTypeId.uri
      let processId ← Identifier.parse i.processId.uri
      return { i with senderId, receiverId, documentTypeId, processId } := by
  simp only [readFields, lookupField_toDict, ok_bind, fieldText, readTimestamp_text, ofValue_text]
  refine bind_congr fun senderId => bind_congr fun receiverId => ?_
  refine bind_congr fun documentTypeId => bind_congr fun processId => ?_
  exact Candidate.Describes.check_eq_ok
    (i := { i with senderId, receiverId, documentTypeId, processId })
    ⟨rfl, rfl, rfl, rfl, rfl, rfl, rfl, rfl, rfl⟩

/-! ## 3. The same item again -/

/-- **An item comes back from its dictionary** exactly if no scheme of its four identifiers, with
    a colon behind it, holds a separator; that is, if none of them holds a separator or ends with
    a colon. -/
theorem ofDict_toDict_eq_ok_iff (i : Item) :
    (ofDict i.toDict = .ok i ↔
      ∀ id ∈ [i.senderId, i.receiverId, i.documentTypeId, i.processId], id.PlainScheme) ∧
    ∀ id : Identifier, id.PlainScheme ↔
      ¬ "::".toList <:+: id.scheme.toList ∧ ¬ ":".toList <:+ id.scheme.toList := by
  refine ⟨?_, fun id => Identifier.plainScheme_iff⟩
  simp only [List.forall_mem_cons, ← Identifier.parse_uri_eq_ok_iff]
  rw [ofDict, mapError_eq_ok, readFields_toDict]
  constructor
  · intro h
    obtain ⟨senderId, hsender, h⟩ := bind_eq_ok.mp h
    obtain ⟨receiverId, hreceiver, h⟩ := bind_eq_ok.mp h
    obtain ⟨documentTypeId, hdocumentType, h⟩ := bind_eq_ok.mp h
    obtain ⟨processId, hprocess, h⟩ := bind_eq_ok.mp h
    have hitem : { i with senderId, receiverId, documentTypeId, processId } = i := Except.ok.inj h
    obtain rfl : senderId = i.senderId := congrArg Item.senderId hitem
    obtain rfl : receiverId = i.receiverId := congrArg Item.receiverId hitem
    obtain rfl : documentTypeId = i.documentTypeId := congrArg Item.documentTypeId hitem
    obtain rfl : processId = i.processId := congrArg Item.processId hitem
    exact ⟨hsender, hreceiver, hdocumentType, hprocess, List.forall_mem_nil _⟩
  · rintro ⟨hsender, hreceiver, hdocumentType, hprocess, _⟩
    rw [hsender, ok_bind, hreceiver, ok_bind, hdocumentType, ok_bind, hprocess, ok_bind]
    rfl

end Item

end PeppolStatistics
