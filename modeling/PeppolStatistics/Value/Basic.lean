import PeppolStatistics.Calendar.Period
import PeppolStatistics.Grouping.Aggregate
import PeppolStatistics.Number.Binary64

/-!
# Values of any kind

Settings files, log fields and the arguments of items and configurations hold values whose kind is
known only when they are looked at. `Value` covers all of them: the plain values of documents, the
library's own values, and exceptions that travel as data. This file holds the type, the names of
the kinds, and the tests and look-ups on single values.
-/

namespace PeppolStatistics

/-! ## 1. The type -/

/-- A value of any kind. -/
inductive Value where
  | null
  | bool (b : Bool)
  | int (n : Int)
  | real (x : Binary64)
  | text (s : String)
  | date (d : Date)
  | dateTime (t : DateTime)
  | uuid (s : String)
  | direction (d : Direction)
  | dimension (d : Dimension)
  | identifier (i : Identifier)
  | item (i : Item)
  | collection (c : Collection)
  | period (p : ReportPeriod)
  | counts (c : GroupCounts)
  | list (vs : List Value)
  | tuple (vs : List Value)
  /-- Keys with their values, in the order in which the keys were first given. -/
  | dict (entries : List (Value × Value))
  /-- An exception: its kind, its arguments, the attributes that were set on it. -/
  | fault (kind : FaultKind) (args : List Value) (attributes : List (String × Value))
  /-- A record of named fields, such as a report or a part of one. -/
  | record (typeName : String) (fields : List (String × Value))
deriving Repr

namespace Value

instance : Inhabited Value := ⟨.null⟩

/-- Whether a value is nothing. -/
def isNull : Value → Bool
  | .null => true
  | _ => false

/-- The name of the kind of a value. -/
def typeName : Value → String
  | .null => "NoneType"
  | .bool _ => "bool"
  | .int _ => "int"
  | .real _ => "float"
  | .text _ => "str"
  | .date _ => "date"
  | .dateTime _ => "datetime"
  | .uuid _ => "UUID"
  | .direction _ => "Direction"
  | .dimension _ => "Dimension"
  | .identifier _ => "PeppolIdentifier"
  | .item _ => "ReportingItem"
  | .collection _ => "ReportingItemCollection"
  | .period _ => "ReportPeriod"
  | .counts _ => "GroupCounts"
  | .list _ => "list"
  | .tuple _ => "tuple"
  | .dict _ => "dict"
  | .fault kind _ _ => kind.name
  | .record typeName _ => typeName

/-! ## 2. Texts -/

/-- The text of a value that is one: a text, a direction or a dimension. -/
def asText? : Value → Option String
  | .text s => some s
  | .direction d => some d.text
  | .dimension d => some d.text
  | _ => none

/-- Whether a value is a text with a character that is not blank. -/
def hasText (v : Value) : Bool := (v.asText?.map Text.hasText).getD false

/-- Whether a value counts as true: it is not nothing, not zero and not empty. -/
def truthy : Value → Bool
  | .null => false
  | .bool b => b
  | .int n => n != 0
  | .real x => !x.isZero
  | .text s => s != ""
  | .collection c => !c.isEmpty
  | .list vs => !vs.isEmpty
  | .tuple vs => !vs.isEmpty
  | .dict es => !es.isEmpty
  | _ => true

/-- The values that a value runs through: the elements of a list or tuple, the keys of a
    dictionary, the characters of a text, the items of a collection. -/
def elements? : Value → Option (List Value)
  | .list vs => some vs
  | .tuple vs => some vs
  | .dict es => some (es.map (·.1))
  | .collection c => some (c.items.map .item)
  | v => v.asText?.map fun s => s.toList.map fun c => .text c.toString

/-- The figures of a group as named values. -/
def ofCounts (c : GroupCounts) : List (String × Value) :=
  c.toEntries.map fun e => (e.1, .int e.2)

/-- The ends of a period as named values. -/
def ofPeriod (p : ReportPeriod) : List (String × Value) :=
  [("start", .date p.first), ("end", .date p.last)]

/-- The fields of an item as named values. -/
def ofItem (i : Item) : List (String × Value) :=
  [("exchange_datetime", .dateTime i.exchangedAt),
   ("direction", .direction i.direction),
   ("sender_id", .identifier i.senderId),
   ("receiver_id", .identifier i.receiverId),
   ("document_type_id", .identifier i.documentTypeId),
   ("process_id", .identifier i.processId),
   ("transport_protocol", .text i.transportProtocol),
   ("end_user_country_code", .text i.endUserCountryCode),
   ("end_user_id", .text i.endUserId)]

end Value

end PeppolStatistics
