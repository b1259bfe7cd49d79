import PeppolStatistics.Grouping.Key

/-!
# Aggregates

A collection grouped by dimensions, with the figures of each group, in ascending order of the
keys. Without dimensions there are no groups: the total of the collection says all.
-/

namespace PeppolStatistics

/-- One group: its dimensions, its key in their order, its figures. -/
structure GroupAggregate where
  dimensions : List Dimension
  key : GroupKey
  counts : GroupCounts
deriving DecidableEq, Repr

namespace GroupAggregate

/-- The field of the key that belongs to a dimension; the first one if the dimension occurs more
    than once. -/
def valueOf (g : GroupAggregate) (d : Dimension) : Except Failure KeyField :=
  match (g.dimensions.zip g.key).lookup d with
  | some f => .ok f
  | none => .error .notGroupedBy

end GroupAggregate

namespace Collection

variable {κ : Type}

/-- The items of a collection by key. -/
def groupBy [DecidableEq κ] (c : Collection) (key : Item → κ) : List (κ × List Item) :=
  PeppolStatistics.groupBy key c.items

/-- The figures of the items of a collection by key. -/
def countBy [DecidableEq κ] (c : Collection) (key : Item → κ) : List (κ × GroupCounts) :=
  (c.groupBy key).map fun b => (b.1, .ofItems b.2)

/-- The groups of a collection in ascending order of their keys. -/
def aggregate (c : Collection) (dims : List Dimension) : List GroupAggregate :=
  if dims.isEmpty then []
  else
    ((c.countBy (Item.key dims)).mergeSort fun a b =>
        SortKey.le (GroupKey.sortKey a.1) (GroupKey.sortKey b.1)).map
      fun g => ⟨dims, g.1, g.2⟩

end Collection

end PeppolStatistics
