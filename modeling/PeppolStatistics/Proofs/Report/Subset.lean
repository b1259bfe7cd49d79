import PeppolStatistics.Proofs.Grouping.Aggregate
import PeppolStatistics.Proofs.Identifier.Separator
import PeppolStatistics.Report.Basic

/-!
# The order of the groups in the reports

The groups of a collection, and with them the subsets of both reports, do not depend on the order
in which the items came, and ascend strictly by their sort keys.

* `SubsetKey.sortField`: what a key of a subset is ordered by, read off the subset alone;
* `sortKey_subsetKeys`: the keys of a subset are ordered as the key of its group;
* `aggregate_of_perm`: one list of groups for all orders of the items;
* `groups_canonical`: both properties, for the groups and for the subsets of both reports.
-/

namespace PeppolStatistics

/-! ## 1. Sort keys of subsets -/

/-- Text and scheme by which a key of a subset is ordered. Keys of document types and processes
    are ordered by their written form and then by their scheme, all others by their value. -/
def SubsetKey.sortField (k : SubsetKey) : String × String :=
  if k.metaSchemeId = Dimension.documentType.metaScheme
      ∨ k.metaSchemeId = Dimension.process.metaScheme then
    (k.schemeId ++ "::" ++ k.value, k.schemeId)
  else (k.value, "")

/-- The sort key of a subset with some keys. -/
def SubsetKey.sortKeyOf (keys : List SubsetKey) : SortKey := keys.map SubsetKey.sortField

theorem SubsetKey.sortField_ofField (d : Dimension) (i : Item) :
    (SubsetKey.ofField d (d.field i)).sortField = (d.field i).sortField := by
  cases d with
  | documentType => exact congrArg (·, i.documentTypeId.scheme) i.documentTypeId.uri_eq.symm
  | process => exact congrArg (·, i.processId.scheme) i.processId.uri_eq.symm
  | endUserCountry => rfl
  | direction => rfl
  | transportProtocol => rfl

namespace Collection

variable {c c' : Collection} {dims : List Dimension}

theorem subsetKeys_eq {g : GroupAggregate} (hg : g ∈ c.aggregate dims) {i : Item}
    (hi : i.key dims = g.key) :
    g.subsetKeys = dims.map fun d => SubsetKey.ofField d (d.field i) := by
  have hdims := (mem_aggregate.mp hg).2.1
  rw [GroupAggregate.subsetKeys, hdims, ← hi, Item.key, ← List.map_prod_left_eq_zip,
    List.map_map]
  rfl

/-- **The keys of a subset are ordered as the key of its group.** -/
theorem sortKey_subsetKeys {g : GroupAggregate} (hg : g ∈ c.aggregate dims) :
    SubsetKey.sortKeyOf g.subsetKeys = GroupKey.sortKey g.key := by
  obtain ⟨i, _, hi⟩ := (mem_aggregate.mp hg).2.2.1
  rw [subsetKeys_eq hg hi, ← hi, SubsetKey.sortKeyOf, GroupKey.sortKey, Item.key, List.map_map,
    List.map_map]
  exact List.map_congr_left fun d _ => SubsetKey.sortField_ofField d i

/-! ## 2. Other orders of the items -/

theorem aggregate_perm (h : c.items.Perm c'.items) (dims : List Dimension) :
    (c.aggregate dims).Perm (c'.aggregate dims) := by
  by_cases hd : dims = []
  · subst hd
    exact List.Perm.refl []
  · rw [aggregate_eq hd, aggregate_eq hd]
    have hsorted := (List.mergeSort_perm (c.countBy (Item.key dims)) countedLe).trans
      ((countBy_perm h dims).trans (List.mergeSort_perm _ countedLe).symm)
    exact hsorted.map _

/-- **One list of groups for all orders of the items**: two lists with the same members that
    ascend strictly are the same. -/
theorem aggregate_of_perm (h : c.items.Perm c'.items) (dims : List Dimension) :
    c.aggregate dims = c'.aggregate dims :=
  (aggregate_perm h dims).eq_of_pairwise
    (fun _ _ _ _ hab hba => absurd hba hab.asymm)
    (pairwise_aggregate c dims) (pairwise_aggregate c' dims)

/-! ## 3. The subsets of the reports -/

/-- Whatever is made of the groups keeps their order if it keeps their keys. -/
theorem pairwise_subsets {σ : Type} (keysOf : σ → List SubsetKey) (make : GroupAggregate → σ)
    (hmake : ∀ g, keysOf (make g) = g.subsetKeys) (c : Collection) (dims : List Dimension) :
    ((c.aggregate dims).map make).Pairwise fun s t =>
      SortKey.Before (SubsetKey.sortKeyOf (keysOf s)) (SubsetKey.sortKeyOf (keysOf t)) := by
  rw [List.pairwise_map]
  refine (pairwise_aggregate c dims).imp_of_mem fun {g h} hg hh hgh => ?_
  rw [hmake, hmake, sortKey_subsetKeys hg, sortKey_subsetKeys hh]
  exact hgh

/-- **One order of the groups.** Collections that differ in the order of their items only have the
    same groups in the same order, and the same subsets in both reports; and in each of these
    lists the sort keys ascend strictly. -/
theorem groups_canonical (c c' : Collection) (h : c.items.Perm c'.items)
    (dims : List Dimension) :
    (c.aggregate dims = c'.aggregate dims ∧
      c.transactionSubsets dims = c'.transactionSubsets dims ∧
      c.endUserSubsets = c'.endUserSubsets) ∧
    ((c.aggregate dims).Pairwise fun g g' =>
      SortKey.Before (GroupKey.sortKey g.key) (GroupKey.sortKey g'.key)) ∧
    ((c.transactionSubsets dims).Pairwise fun s s' =>
      SortKey.Before (SubsetKey.sortKeyOf s.keys) (SubsetKey.sortKeyOf s'.keys)) ∧
    (c.endUserSubsets.Pairwise fun s s' =>
      SortKey.Before (SubsetKey.sortKeyOf s.keys) (SubsetKey.sortKeyOf s'.keys)) := by
  refine ⟨⟨aggregate_of_perm h dims, ?_, ?_⟩, pairwise_aggregate c dims, ?_, ?_⟩
  · rw [transactionSubsets, aggregate_of_perm h dims]
    rfl
  · rw [endUserSubsets, aggregate_of_perm h endUserDimensions]
    rfl
  · exact pairwise_subsets TransactionSubset.keys _ (fun _ => rfl) c dims
  · exact pairwise_subsets EndUserSubset.keys _ (fun _ => rfl) c endUserDimensions

end Collection

/-- Two document types with one written form keep their order when the invoices change places. -/
theorem groups_canonical_ambiguous :
    ambiguousInvoices.Perm ambiguousInvoices.reverse ∧
    Collection.aggregate ⟨ambiguousInvoices⟩ [.documentType] =
      Collection.aggregate ⟨ambiguousInvoices.reverse⟩ [.documentType] ∧
    (Collection.aggregate ⟨ambiguousInvoices⟩ [.documentType]).Pairwise fun g g' =>
      SortKey.Before (GroupKey.sortKey g.key) (GroupKey.sortKey g'.key) := by
  have hperm : ambiguousInvoices.Perm ambiguousInvoices.reverse := ambiguousInvoices.reverse_perm.symm
  obtain ⟨⟨hgroups, _, _⟩, hascending, _⟩ :=
    Collection.groups_canonical ⟨ambiguousInvoices⟩ ⟨ambiguousInvoices.reverse⟩ hperm [.documentType]
  exact ⟨hperm, hgroups, hascending⟩

end PeppolStatistics
