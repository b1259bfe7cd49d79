import Mathlib.Algebra.BigOperators.Ring.Finset
import PeppolStatistics.Proofs.Grouping.Aggregate

/-!
# The groups of a collection are a partition

Each item of a collection lies in exactly one of its groups. So the message counts of the groups
add up to those of the collection, in each direction.

* `perm_flatMap_filter`: the elements of a list, taken key by key, are the list in another order;
* `Collection.perm_groups`: the items of the groups are the items of the collection;
* `Collection.sum_incoming`, `Collection.sum_outgoing`: the message counts add up.
-/

namespace PeppolStatistics

/-! ## 1. Elements by key -/

variable {α κ : Type}

/-- **The elements of a list, taken key by key**, are all of them, none twice. -/
theorem perm_flatMap_filter [DecidableEq α] [DecidableEq κ] (key : α → κ) {ks : List κ}
    {as : List α} (hnodup : ks.Nodup) (hmem : ∀ a ∈ as, key a ∈ ks) :
    (ks.flatMap fun k => as.filter fun a => key a = k).Perm as := by
  rw [List.perm_iff_count]
  intro a
  rw [List.count_flatMap]
  have hother : ∀ k, k ≠ key a → k ∈ ks →
      (List.count a ∘ fun k => as.filter fun b => key b = k) k = 0 := by
    intro k hk _
    refine List.count_eq_zero.mpr fun ha => hk ?_
    exact (of_decide_eq_true (List.mem_filter.mp ha).2).symm
  have hown : (List.count a ∘ fun k => as.filter fun b => key b = k) (key a) = as.count a :=
    List.count_filter (decide_eq_true rfl)
  rw [List.sum_map_eq_nsmul_single (key a) _ hother, hown]
  by_cases ha : a ∈ as
  · rw [List.count_eq_one_of_mem hnodup (hmem a ha), one_nsmul]
  · rw [List.count_eq_zero.mpr ha, nsmul_zero]

namespace Collection

variable {dims : List Dimension}

/-- **The items of the groups** are the items of the collection, none lost and none twice. -/
theorem perm_groups (hd : dims ≠ []) (c : Collection) :
    ((c.aggregate dims).flatMap fun g => c.withKey dims g.key).Perm c.items := by
  have hkeys : ((c.aggregate dims).flatMap fun g => c.withKey dims g.key) =
      ((c.aggregate dims).map (·.key)).flatMap fun k => c.items.filter fun i => i.key dims = k :=
    (List.flatMap_map ..).symm
  rw [hkeys]
  refine perm_flatMap_filter (Item.key dims) (nodup_keys_aggregate c dims) fun i hi => ?_
  exact (mem_keys_aggregate hd).mpr ⟨i, hi, rfl⟩

/-! ## 2. Message counts -/

/-- The numbers of messages of one direction add up over the groups. -/
theorem sum_length_ofDirection (hd : dims ≠ []) (c : Collection) (d : Direction) :
    ((c.aggregate dims).map fun g => (ofDirection d (c.withKey dims g.key)).length).sum =
      (ofDirection d c.items).length := by
  have hfilter := ((perm_groups hd c).filter fun i => i.direction = d).length_eq
  rwa [List.filter_flatMap, List.length_flatMap] at hfilter

theorem sum_of_lengths {figure : GroupCounts → Int} {d : Direction}
    (hfigure : ∀ items, figure (.ofItems items) = (ofDirection d items).length)
    (hd : dims ≠ []) (c : Collection) :
    ((c.aggregate dims).map fun g => figure g.counts).sum = figure c.totals := by
  have hgroups : ((c.aggregate dims).map fun g => figure g.counts) =
      ((c.aggregate dims).map fun g => (ofDirection d (c.withKey dims g.key)).length).map
        Nat.cast := by
    rw [List.map_map]
    refine List.map_congr_left fun g hg => ?_
    rw [(mem_aggregate.mp hg).2.2.2, hfigure]
    rfl
  rw [hgroups, ← Nat.cast_list_sum, sum_length_ofDirection hd, totals, hfigure]

/-- **The received messages of the groups add up** to those of the collection. -/
theorem sum_incoming (hd : dims ≠ []) (c : Collection) :
    ((c.aggregate dims).map fun g => g.counts.incoming).sum = c.totals.incoming :=
  sum_of_lengths (fun items => (GroupCounts.countsOf_ofItems items).incoming) hd c

/-- **The sent messages of the groups add up** to those of the collection. -/
theorem sum_outgoing (hd : dims ≠ []) (c : Collection) :
    ((c.aggregate dims).map fun g => g.counts.outgoing).sum = c.totals.outgoing :=
  sum_of_lengths (fun items => (GroupCounts.countsOf_ofItems items).outgoing) hd c

end Collection

end PeppolStatistics
