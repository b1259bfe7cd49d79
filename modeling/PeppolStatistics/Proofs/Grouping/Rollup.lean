import PeppolStatistics.Proofs.Grouping.Partition

/-!
# Coarser and finer groups

A collection is grouped by some dimensions, and again by those of them that stand at some kept
positions. Each coarse group is made up of the fine groups whose keys agree with its own at the
kept positions. Its numbers of messages are the sums of theirs; its numbers of end users, who may
occur in several fine groups, lie between the greatest of theirs and the sum.

* `Collection.aggregate_part`: the groups of the items with a coarse key are the fine groups that
  agree with it;
* `GroupCounts.RollsUp`: what the figures of a whole and of its groups have to do with each other;
* `Collection.rollsUp`: the groups of a collection roll up to its totals;
* `Collection.rollsUp_groupsBy`: the fine groups roll up to each coarse one.
-/

namespace PeppolStatistics

/-! ## 1. Kept positions -/

variable {α β : Type}

/-- The elements of a list that stand at the kept positions, counted from zero. -/
def kept (keep : Nat → Bool) : List α → List α
  | [] => []
  | a :: as =>
    if keep 0 then a :: kept (fun n => keep (n + 1)) as else kept (fun n => keep (n + 1)) as

theorem kept_map (f : α → β) (as : List α) :
    ∀ keep : Nat → Bool, kept keep (as.map f) = (kept keep as).map f := by
  induction as with
  | nil => exact fun _ => rfl
  | cons a as ih =>
    intro keep
    rw [List.map_cons, kept, kept, ih]
    cases keep 0 <;> rfl

/-- The key by the kept dimensions is the kept part of the key. -/
theorem Item.key_kept (keep : Nat → Bool) (dims : List Dimension) (i : Item) :
    i.key (kept keep dims) = kept keep (i.key dims) :=
  (kept_map _ dims keep).symm

/-! ## 2. The groups of a part -/

namespace Collection

variable {c : Collection} {dims : List Dimension} {keep : Nat → Bool} {k : GroupKey}

theorem mem_part {i : Item} :
    i ∈ c.withKey (kept keep dims) k ↔ i ∈ c.items ∧ kept keep (i.key dims) = k := by
  rw [mem_withKey, Item.key_kept]

/-- In the part with a coarse key, a fine key that agrees with it has all its items. -/
theorem withKey_part {k' : GroupKey} (h : kept keep k' = k) :
    withKey ⟨c.withKey (kept keep dims) k⟩ dims k' = c.withKey dims k' := by
  rw [withKey, withKey, withKey, List.filter_filter]
  refine List.filter_congr fun i _ => ?_
  by_cases hi : i.key dims = k'
  · simp [hi, Item.key_kept, h]
  · simp [hi]

theorem mem_aggregate_part {g : GroupAggregate} :
    g ∈ aggregate ⟨c.withKey (kept keep dims) k⟩ dims ↔
      g ∈ c.aggregate dims ∧ kept keep g.key = k := by
  rw [mem_aggregate, mem_aggregate]
  constructor
  · rintro ⟨hd, hdims, ⟨i, hi, hkey⟩, hcounts⟩
    obtain ⟨hi, hk⟩ := mem_part.mp hi
    rw [hkey] at hk
    rw [withKey_part hk] at hcounts
    exact ⟨⟨hd, hdims, ⟨i, hi, hkey⟩, hcounts⟩, hk⟩
  · rintro ⟨⟨hd, hdims, ⟨i, hi, hkey⟩, hcounts⟩, hk⟩
    rw [withKey_part hk]
    exact ⟨hd, hdims, ⟨i, mem_part.mpr ⟨hi, hkey ▸ hk⟩, hkey⟩, hcounts⟩

theorem nodup_aggregate (c : Collection) (dims : List Dimension) : (c.aggregate dims).Nodup :=
  (nodup_keys_aggregate c dims).of_map _

/-- **The groups of the part with a coarse key** are the fine groups that agree with it: both
    lists ascend strictly, and they have the same members. -/
theorem aggregate_part (c : Collection) (dims : List Dimension) (keep : Nat → Bool)
    (k : GroupKey) :
    aggregate ⟨c.withKey (kept keep dims) k⟩ dims =
      (c.aggregate dims).filter fun g => kept keep g.key = k := by
  have hperm : (aggregate ⟨c.withKey (kept keep dims) k⟩ dims).Perm
      ((c.aggregate dims).filter fun g => kept keep g.key = k) := by
    rw [List.perm_ext_iff_of_nodup (nodup_aggregate _ dims) ((nodup_aggregate c dims).filter _)]
    intro g
    rw [mem_aggregate_part, List.mem_filter, decide_eq_true_iff]
  exact hperm.eq_of_pairwise (fun _ _ _ _ hab hba => absurd hba hab.asymm)
    (pairwise_aggregate _ dims) ((pairwise_aggregate c dims).filter _)

end Collection

/-! ## 3. What rolls up -/

namespace GroupCounts

/-- The figures that count distinct end users. -/
def endUserFigures : List (GroupCounts → Int) :=
  [sendingEndUsers, receivingEndUsers, sendingOrReceivingEndUsers]

/-- **The figures of some groups roll up to those of a whole**: there is at least one group, the
    messages add up in each direction, and each number of end users is at least that of every
    group and at most their sum. -/
structure RollsUp (whole : GroupCounts) (groups : List GroupCounts) : Prop where
  nonempty : groups ≠ []
  incoming : whole.incoming = (groups.map (·.incoming)).sum
  outgoing : whole.outgoing = (groups.map (·.outgoing)).sum
  le_endUsers : ∀ figure ∈ endUserFigures, ∀ g ∈ groups, figure g ≤ figure whole
  endUsers_le : ∀ figure ∈ endUserFigures, figure whole ≤ (groups.map figure).sum

/-- Each number of end users is the size of their set, for some choice of the items. -/
theorem exists_endUsers {figure : GroupCounts → Int} (h : figure ∈ endUserFigures) :
    ∃ p : Item → Bool, ∀ items, figure (ofItems items) = (endUserSet (items.filter p)).card := by
  simp only [endUserFigures, List.mem_cons, List.not_mem_nil, or_false] at h
  obtain rfl | rfl | rfl := h
  · exact ⟨fun i => i.direction = .sending, fun items => (countsOf_ofItems items).sendingEndUsers⟩
  · exact ⟨fun i => i.direction = .receiving,
      fun items => (countsOf_ofItems items).receivingEndUsers⟩
  · refine ⟨fun _ => true, fun items => ?_⟩
    rw [List.filter_true]
    exact (countsOf_ofItems items).sendingOrReceivingEndUsers

end GroupCounts

theorem endUserSet_subset {xs ys : List Item} (h : ∀ i ∈ xs, i ∈ ys) :
    endUserSet xs ⊆ endUserSet ys := by
  intro u hu
  obtain ⟨i, hi, hu⟩ := mem_endUserSet.mp hu
  exact mem_endUserSet.mpr ⟨i, h i hi, hu⟩

/-- The end users of several lists are at most as many as those of the lists one by one. -/
theorem card_endUserSet_flatMap_le (f : α → List Item) (as : List α) :
    (endUserSet (as.flatMap f)).card ≤ (as.map fun a => (endUserSet (f a)).card).sum := by
  induction as with
  | nil => exact Nat.le_refl 0
  | cons a as ih =>
    have hunion : endUserSet ((a :: as).flatMap f) = endUserSet (f a) ∪ endUserSet (as.flatMap f) := by
      rw [List.flatMap_cons, endUserSet, List.map_append, List.toFinset_append]
      rfl
    rw [hunion, List.map_cons, List.sum_cons]
    exact (Finset.card_union_le _ _).trans (Nat.add_le_add_left ih _)

namespace Collection

variable {dims : List Dimension} {figure : GroupCounts → Int} {p : Item → Bool}

/-- No group has more end users than the whole collection. -/
theorem endUsers_group_le
    (hfigure : ∀ items, figure (.ofItems items) = (endUserSet (items.filter p)).card)
    {c : Collection} {g : GroupAggregate} (hg : g ∈ c.aggregate dims) :
    figure g.counts ≤ figure c.totals := by
  rw [(mem_aggregate.mp hg).2.2.2, totals, hfigure, hfigure]
  refine Int.ofNat_le.mpr (Finset.card_le_card (endUserSet_subset fun i hi => ?_))
  obtain ⟨hi, hp⟩ := List.mem_filter.mp hi
  exact List.mem_filter.mpr ⟨(mem_withKey.mp hi).1, hp⟩

/-- The whole collection has no more end users than its groups one by one. -/
theorem endUsers_le_sum
    (hfigure : ∀ items, figure (.ofItems items) = (endUserSet (items.filter p)).card)
    (hd : dims ≠ []) (c : Collection) :
    figure c.totals ≤ ((c.aggregate dims).map fun g => figure g.counts).sum := by
  have hgroups : ((c.aggregate dims).map fun g => figure g.counts) =
      ((c.aggregate dims).map fun g =>
        (endUserSet ((c.withKey dims g.key).filter p)).card).map Nat.cast := by
    rw [List.map_map]
    refine List.map_congr_left fun g hg => ?_
    rw [(mem_aggregate.mp hg).2.2.2, hfigure]
    rfl
  have hitems := ((perm_groups hd c).filter p).symm
  rw [List.filter_flatMap] at hitems
  rw [hgroups, ← Nat.cast_list_sum, totals, hfigure, endUserSet_perm hitems]
  exact Int.ofNat_le.mpr (card_endUserSet_flatMap_le _ _)

/-- **The groups of a collection roll up to its totals.** -/
theorem rollsUp (hd : dims ≠ []) {c : Collection} (hc : c.items ≠ []) :
    c.totals.RollsUp ((c.aggregate dims).map (·.counts)) := by
  constructor
  · obtain ⟨i, hi⟩ := List.exists_mem_of_ne_nil _ hc
    have hkey := (mem_keys_aggregate hd).mpr ⟨i, hi, rfl⟩
    obtain ⟨g, hg, _⟩ := List.mem_map.mp hkey
    exact List.ne_nil_of_mem (List.mem_map_of_mem hg)
  · rw [List.map_map]
    exact (sum_incoming hd c).symm
  · rw [List.map_map]
    exact (sum_outgoing hd c).symm
  · intro figure hfigure counts hcounts
    obtain ⟨g, hg, rfl⟩ := List.mem_map.mp hcounts
    obtain ⟨p, hp⟩ := GroupCounts.exists_endUsers hfigure
    exact endUsers_group_le hp hg
  · intro figure hfigure
    obtain ⟨p, hp⟩ := GroupCounts.exists_endUsers hfigure
    rw [List.map_map]
    exact endUsers_le_sum hp hd c

/-! ## 4. Coarse groups -/

/-- The groups by some dimensions; without dimensions all items are one group, with the totals. -/
def groupsBy (c : Collection) (dims : List Dimension) : List GroupAggregate :=
  if dims = [] then [⟨[], [], c.totals⟩] else c.aggregate dims

/-- A group has the figures of a part of the collection in which items occur. -/
theorem of_mem_groupsBy {c : Collection} (hc : c.items ≠ []) {g : GroupAggregate}
    (hg : g ∈ c.groupsBy dims) :
    (∃ i ∈ c.items, i.key dims = g.key) ∧ g.counts = .ofItems (c.withKey dims g.key) := by
  by_cases hd : dims = []
  · subst hd
    obtain rfl := List.mem_singleton.mp hg
    obtain ⟨i, hi⟩ := List.exists_mem_of_ne_nil _ hc
    refine ⟨⟨i, hi, rfl⟩, ?_⟩
    have hall : c.withKey [] [] = c.items := List.filter_eq_self.mpr fun _ _ => rfl
    rw [hall]
    rfl
  · rw [groupsBy, if_neg hd] at hg
    exact (mem_aggregate.mp hg).2.2

/-- **Fine groups roll up to coarse ones.** Some items are grouped by some dimensions, and by those
    of them at the kept positions (where none is kept, all items are one group). Then the fine
    groups whose keys agree with that of a coarse group at the kept positions roll up to it. -/
theorem rollsUp_groupsBy (c : Collection) (hc : c.items ≠ []) (dims : List Dimension)
    (hd : dims ≠ []) (keep : Nat → Bool) (g : GroupAggregate)
    (hg : g ∈ c.groupsBy (kept keep dims)) :
    g.counts.RollsUp
      (((c.aggregate dims).filter fun fine => kept keep fine.key = g.key).map (·.counts)) := by
  obtain ⟨⟨i, hi, hkey⟩, hcounts⟩ := of_mem_groupsBy hc hg
  have hpart : c.withKey (kept keep dims) g.key ≠ [] :=
    List.ne_nil_of_mem (mem_withKey.mpr ⟨hi, hkey⟩)
  rw [hcounts, ← aggregate_part]
  exact rollsUp hd (c := ⟨c.withKey (kept keep dims) g.key⟩) hpart

end Collection

/-- Two invoices of one end user, one sent and one received: with no position kept, the two groups
    roll up to the totals, which have one message in each direction and one end user. -/
theorem rollsUp_groupsBy_ambiguous :
    ambiguousInvoices ≠ [] ∧ [Dimension.documentType, .direction] ≠ [] ∧
    ⟨[], [], ⟨1, 1, 1, 1, 1⟩⟩ ∈ Collection.groupsBy ⟨ambiguousInvoices⟩
      (kept (fun _ => false) [.documentType, .direction]) ∧
    GroupCounts.RollsUp ⟨1, 1, 1, 1, 1⟩
      (((Collection.aggregate ⟨ambiguousInvoices⟩ [.documentType, .direction]).filter
        fun fine => kept (fun _ => false) fine.key = []).map (·.counts)) := by
  have hc : ambiguousInvoices ≠ [] := by decide
  have hd : [Dimension.documentType, .direction] ≠ [] := by decide
  have hg : ⟨[], [], ⟨1, 1, 1, 1, 1⟩⟩ ∈ Collection.groupsBy ⟨ambiguousInvoices⟩
      (kept (fun _ => false) [.documentType, .direction]) := by decide
  exact ⟨hc, hd, hg, Collection.rollsUp_groupsBy ⟨ambiguousInvoices⟩ hc _ hd _ _ hg⟩

end PeppolStatistics
