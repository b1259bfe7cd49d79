import PeppolStatistics.Grouping.Counts

/-!
# Dimensions and keys

Items are grouped by dimensions. The key of an item has one field per dimension; its order is that
of its sort key, field by field by text and then by scheme, which tells apart the identifiers that
have the same written form.
-/

namespace PeppolStatistics

/-! ## 1. Dimensions -/

/-- What items can be grouped by. -/
inductive Dimension where
  | endUserCountry
  | documentType
  | process
  | direction
  | transportProtocol
deriving DecidableEq, Repr

namespace Dimension

/-- All dimensions. -/
def all : List Dimension := [.endUserCountry, .documentType, .process, .direction, .transportProtocol]

/-- The text of a dimension. -/
def text : Dimension → String
  | .endUserCountry => "end_user_country"
  | .documentType => "document_type"
  | .process => "process"
  | .direction => "direction"
  | .transportProtocol => "transport_protocol"

/-- The dimension with a text. -/
def ofText? (s : String) : Option Dimension := all.find? fun d => d.text == s

@[simp] theorem ofText?_text (d : Dimension) : ofText? d.text = some d := by
  cases d <;> simp [ofText?, all, text]

/-- The name of a dimension as a member of its class. -/
def memberName : Dimension → String
  | .endUserCountry => "Dimension.END_USER_COUNTRY"
  | .documentType => "Dimension.DOCUMENT_TYPE"
  | .process => "Dimension.PROCESS"
  | .direction => "Dimension.DIRECTION"
  | .transportProtocol => "Dimension.TRANSPORT_PROTOCOL"

end Dimension

/-! ## 2. Keys -/

/-- One field of a key. -/
inductive KeyField where
  | text (s : String)
  | identifier (i : Identifier)
  | direction (d : Direction)
deriving DecidableEq, Repr

namespace KeyField

/-- The text by which a field is ordered. -/
def keyText : KeyField → String
  | .text s => s
  | .identifier i => i.uri
  | .direction d => d.text

/-- The scheme by which identifiers with one written form are told apart. -/
def scheme : KeyField → String
  | .identifier i => i.scheme
  | _ => ""

/-- Text and scheme of a field. -/
def sortField (f : KeyField) : String × String := (f.keyText, f.scheme)

end KeyField

/-- The key of a group: one field per dimension. -/
abbrev GroupKey := List KeyField

/-- What a dimension selects of an item. -/
def Dimension.field : Dimension → Item → KeyField
  | .endUserCountry, i => .text i.endUserCountryCode
  | .documentType, i => .identifier i.documentTypeId
  | .process, i => .identifier i.processId
  | .direction, i => .direction i.direction
  | .transportProtocol, i => .text i.transportProtocol

/-- The key of an item. -/
def Item.key (dims : List Dimension) (i : Item) : GroupKey := dims.map fun d => d.field i

@[simp] theorem Item.length_key (dims : List Dimension) (i : Item) :
    (i.key dims).length = dims.length := by simp [Item.key]

/-! ## 3. Order -/

/-- What keys are ordered by: text and scheme of every field. -/
abbrev SortKey := List (String × String)

namespace SortKey

/-- Whether one field lies before another: by text, then by scheme. -/
def fieldLt (a b : String × String) : Bool := a.1 < b.1 || (a.1 == b.1 && a.2 < b.2)

/-- Whether one sort key lies before another or is the same: by the first field that differs. -/
def le : SortKey → SortKey → Bool
  | [], _ => true
  | _ :: _, [] => false
  | a :: as, b :: bs => if a = b then le as bs else fieldLt a b

/-- The places of some sort keys in ascending order; equal keys keep their order. -/
def order (keys : List SortKey) : List Nat :=
  (keys.zipIdx.mergeSort fun a b => le a.1 b.1).map (·.2)

end SortKey

/-- The sort key of a key. -/
def GroupKey.sortKey (k : GroupKey) : SortKey := k.map KeyField.sortField

end PeppolStatistics
