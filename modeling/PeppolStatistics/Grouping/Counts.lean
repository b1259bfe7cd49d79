import PeppolStatistics.Item.Basic
import PeppolStatistics.Grouping.Buckets

/-!
# Counts of a group

The figures that a report gives for a group of items: the messages in each direction, and the
distinct end users that sent, that received, and that did either. The items are gone through once,
with a `Tally` of what was met so far.
-/

namespace PeppolStatistics

/-- The figures of one group. -/
structure GroupCounts where
  incoming : Int := 0
  outgoing : Int := 0
  sendingEndUsers : Int := 0
  receivingEndUsers : Int := 0
  sendingOrReceivingEndUsers : Int := 0
deriving DecidableEq, Repr

namespace GroupCounts

/-- The messages of both directions. -/
def total (c : GroupCounts) : Int := c.incoming + c.outgoing

end GroupCounts

/-- What was met among some items: the messages and the end users of each direction. -/
structure Tally where
  incoming : Int := 0
  outgoing : Int := 0
  senders : List String := []
  receivers : List String := []

namespace Tally

/-- One more item: a message of its direction, and its end user unless it was met there before. -/
def add (t : Tally) (i : Item) : Tally :=
  if i.isReceiving then
    { t with incoming := t.incoming + 1, receivers := t.receivers.insert i.endUserId }
  else
    { t with outgoing := t.outgoing + 1, senders := t.senders.insert i.endUserId }

/-- The end users of either direction. -/
def endUsers (t : Tally) : List String := t.senders.foldr List.insert t.receivers

/-- The figures of what was met. -/
def counts (t : Tally) : GroupCounts where
  incoming := t.incoming
  outgoing := t.outgoing
  sendingEndUsers := t.senders.length
  receivingEndUsers := t.receivers.length
  sendingOrReceivingEndUsers := t.endUsers.length

end Tally

namespace GroupCounts

/-- The figures of some items. -/
def ofItems (items : List Item) : GroupCounts := (items.foldl Tally.add {}).counts

@[simp] theorem ofItems_nil : ofItems [] = {} := rfl

/-- The figures with their names, in the order of the type. -/
def toEntries (c : GroupCounts) : List (String × Int) :=
  [("incoming", c.incoming), ("outgoing", c.outgoing),
   ("sending_end_users", c.sendingEndUsers), ("receiving_end_users", c.receivingEndUsers),
   ("sending_or_receiving_end_users", c.sendingOrReceivingEndUsers)]

/-- The sum of one figure over some groups. -/
def sumOf (figure : GroupCounts → Int) (groups : List GroupCounts) : Int :=
  groups.foldr (fun g sum => figure g + sum) 0

@[simp] theorem sumOf_nil (figure : GroupCounts → Int) : sumOf figure [] = 0 := rfl

@[simp] theorem sumOf_cons (figure : GroupCounts → Int) (g : GroupCounts)
    (groups : List GroupCounts) : sumOf figure (g :: groups) = figure g + sumOf figure groups := rfl

/-- Whether the message counts of some groups add up to a total in each direction. -/
def reconcile (groups : List GroupCounts) (total : GroupCounts) : Bool :=
  sumOf (·.incoming) groups == total.incoming && sumOf (·.outgoing) groups == total.outgoing

end GroupCounts

/-- The figures of a collection. -/
def Collection.totals (c : Collection) : GroupCounts := .ofItems c.items

end PeppolStatistics
