import Mathlib.Algebra.Order.BigOperators.Group.List
import PeppolStatistics.Proofs.Grouping.Partition

/-!
# Groups and totals

The message counts of all groups of a collection add up to its totals. Those of fewer groups
never do: every group has a message, and what is missing in one direction cannot be made up for
in the other, where nothing can be more than the total.

* `eq_of_sublist_of_sum`: a part of a list that has the sum of the list is the list, if every
  element counts for something;
* `Collection.total_pos`: every group has a message;
* `Collection.reconcile_iff_complete`: some groups reconcile with the totals exactly if they are
  all of them.
-/

namespace PeppolStatistics

/-! ## 1. Sums over parts of a list -/

/-- **A part with the sum of the whole** leaves nothing out that counts for something. -/
theorem eq_of_sublist_of_sum {α : Type} {figure : α → Int} {part whole : List α}
    (hpart : part.Sublist whole) (hpos : ∀ a ∈ whole, 0 < figure a)
    (hsum : (part.map figure).sum = (whole.map figure).sum) : part = whole := by
  induction hpart with
  | slnil => rfl
  | @cons part whole a hpart ih =>
    -- the sum of the part is at most that of the elements behind `a`
    have hnonneg : ∀ n ∈ whole.map figure, 0 ≤ n := by
      intro n hn
      obtain ⟨b, hb, hbn⟩ := List.mem_map.mp hn
      have hb := hpos b (List.mem_cons_of_mem a hb)
      omega
    have hle : (part.map figure).sum ≤ (whole.map figure).sum :=
      (hpart.map figure).sum_le_sum hnonneg
    have ha : 0 < figure a := hpos a List.mem_cons_self
    rw [List.map_cons, List.sum_cons] at hsum
    omega
  | @cons_cons part whole a hpart ih =>
    rw [List.map_cons, List.sum_cons, List.map_cons, List.sum_cons] at hsum
    have hrest : part = whole :=
      ih (fun b hb => hpos b (List.mem_cons_of_mem a hb)) (by omega)
    rw [hrest]

/-! ## 2. What reconciles -/

namespace GroupCounts

theorem sumOf_eq (figure : GroupCounts → Int) (groups : List GroupCounts) :
    sumOf figure groups = (groups.map figure).sum := by
  induction groups with
  | nil => rfl
  | cons g groups ih => rw [sumOf_cons, ih, List.map_cons, List.sum_cons]

/-- **To reconcile** is to add up in each direction. -/
theorem reconcile_iff {groups : List GroupAggregate} {whole : GroupCounts} :
    reconcile (groups.map (·.counts)) whole = true ↔
      (groups.map fun g => g.counts.incoming).sum = whole.incoming ∧
      (groups.map fun g => g.counts.outgoing).sum = whole.outgoing := by
  rw [reconcile, Bool.and_eq_true, beq_iff_eq, beq_iff_eq, sumOf_eq, sumOf_eq, List.map_map,
    List.map_map]
  rfl

/-- The messages of both directions are all items. -/
theorem total_ofItems (items : List Item) : (ofItems items).total = items.length := by
  have hcounts := countsOf_ofItems items
  have hother : (items.filter fun i => !decide (i.direction = .receiving)) =
      ofDirection .sending items := by
    refine List.filter_congr fun i _ => ?_
    cases i.direction with
    | sending => rfl
    | receiving => rfl
  have hlength := List.length_eq_length_filter_add (l := items)
    fun i => decide (i.direction = .receiving)
  rw [hother] at hlength
  have hreceived : (items.filter fun i => decide (i.direction = .receiving)) =
      ofDirection .receiving items := rfl
  rw [hreceived] at hlength
  rw [total, hcounts.incoming, hcounts.outgoing, hlength]
  omega

end GroupCounts

/-! ## 3. The groups of a collection -/

namespace Collection

variable {c : Collection} {dims : List Dimension}

/-- **Every group has a message.** -/
theorem total_pos {g : GroupAggregate} (hg : g ∈ c.aggregate dims) : 0 < g.counts.total := by
  obtain ⟨_, _, ⟨i, hi, hkey⟩, hcounts⟩ := mem_aggregate.mp hg
  have hmember : i ∈ c.withKey dims g.key := mem_withKey.mpr ⟨hi, hkey⟩
  have hlength : 0 < (c.withKey dims g.key).length := List.length_pos_of_mem hmember
  rw [hcounts, GroupCounts.total_ofItems]
  omega

/-- **Nothing can be left out unnoticed.** Some of the groups of a collection, in their order,
    reconcile with its totals exactly if they are all groups: the whole result always does, and
    without one or more of the groups it never does. -/
theorem reconcile_iff_complete (c : Collection) (dims : List Dimension) (hd : dims ≠ [])
    (groups : List GroupAggregate) (hgroups : groups.Sublist (c.aggregate dims)) :
    GroupCounts.reconcile (groups.map (·.counts)) c.totals = true ↔
      groups = c.aggregate dims := by
  have hincoming := sum_incoming hd c
  have houtgoing := sum_outgoing hd c
  rw [GroupCounts.reconcile_iff]
  constructor
  · intro h
    -- both directions together, so that each group counts for something
    have hsum : (groups.map fun g => g.counts.total).sum =
        ((c.aggregate dims).map fun g => g.counts.total).sum := by
      calc (groups.map fun g => g.counts.total).sum
          = (groups.map fun g => g.counts.incoming).sum +
              (groups.map fun g => g.counts.outgoing).sum := List.sum_map_add
        _ = c.totals.incoming + c.totals.outgoing := by rw [h.1, h.2]
        _ = ((c.aggregate dims).map fun g => g.counts.incoming).sum +
              ((c.aggregate dims).map fun g => g.counts.outgoing).sum := by
            rw [hincoming, houtgoing]
        _ = ((c.aggregate dims).map fun g => g.counts.total).sum := List.sum_map_add.symm
    exact eq_of_sublist_of_sum hgroups (fun g hg => total_pos hg) hsum
  · intro h
    rw [h]
    exact ⟨hincoming, houtgoing⟩

end Collection

/-- Two invoices, one sent and one received, are in two groups by their document types. The group
    of the sent one alone does not reconcile with the totals. -/
theorem reconcile_iff_complete_ambiguous :
    [Dimension.documentType] ≠ [] ∧
    List.Sublist [⟨[.documentType], [.identifier longScheme], ⟨0, 1, 1, 0, 1⟩⟩]
      (Collection.aggregate ⟨ambiguousInvoices⟩ [.documentType]) ∧
    ¬ GroupCounts.reconcile [⟨0, 1, 1, 0, 1⟩] (Collection.totals ⟨ambiguousInvoices⟩) = true := by
  have hd : [Dimension.documentType] ≠ [] := by decide
  have hsent : ⟨[.documentType], [.identifier longScheme], ⟨0, 1, 1, 0, 1⟩⟩ ∈
      Collection.aggregate ⟨ambiguousInvoices⟩ [.documentType] :=
    Collection.mem_aggregate.mpr ⟨hd, rfl, ⟨_, List.mem_cons_self, rfl⟩, by decide⟩
  have hsub := List.singleton_sublist.mpr hsent
  refine ⟨hd, hsub, fun h => ?_⟩
  have hall := (Collection.reconcile_iff_complete ⟨ambiguousInvoices⟩ _ hd _ hsub).mp h
  -- the group of the received invoice is missing
  have hreceived : [.identifier shortScheme] ∈
      (Collection.aggregate ⟨ambiguousInvoices⟩ [.documentType]).map (·.key) :=
    (Collection.mem_keys_aggregate hd).mpr ⟨_, List.mem_cons_of_mem _ List.mem_cons_self, rfl⟩
  rw [← hall] at hreceived
  exact absurd hreceived (by decide)

end PeppolStatistics
