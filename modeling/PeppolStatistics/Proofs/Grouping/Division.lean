import PeppolStatistics.Proofs.Grouping.Partition

/-!
# Items divided by any key

Grouping takes any function on the items for a key, not only the keys of dimensions. What comes
out is said here without the loop, and of it there is only one.

* `Division`: which buckets there are, in which order, and what each of them holds;
* `Division.unique`, `Division.perm`: the buckets of a division are fixed by this, and together
  they are the list in another order;
* `division_groupBy`: grouping divides a list;
* `Collection.groupBy_divides`: all of it for the items of a collection, with the figures that are
  taken of the buckets.
-/

namespace PeppolStatistics

variable {α κ : Type}

/-! ## 1. The order of first occurrences -/

/-- **Distinct elements stand in the order in which they first occur.** -/
theorem pairwise_distinct [DecidableEq α] (as : List α) :
    (distinct as).Pairwise fun a b => as.idxOf a < as.idxOf b := by
  induction as with
  | nil => exact List.Pairwise.nil
  | cons a as ih =>
    have hlater : ∀ b ∈ (distinct as).filter (· ≠ a), (a :: as).idxOf b = as.idxOf b + 1 := by
      intro b hb
      have hne : b ≠ a := of_decide_eq_true (List.mem_filter.mp hb).2
      exact List.idxOf_cons_ne as hne.symm
    rw [distinct, List.pairwise_cons]
    constructor
    · intro b hb
      rw [List.idxOf_cons_self, hlater b hb]
      exact Nat.succ_pos _
    · refine (ih.filter _).imp_of_mem fun hb hc hlt => ?_
      rw [hlater _ hb, hlater _ hc]
      exact Nat.succ_lt_succ hlt

/-! ## 2. Divisions -/

/-- **A list is divided over buckets by a key.** -/
structure Division [DecidableEq κ] (key : α → κ) (as : List α) (buckets : List (κ × List α)) :
    Prop where
  /-- The keys of the buckets are those of the elements. -/
  mem_keys : ∀ k, k ∈ buckets.map (·.1) ↔ ∃ a ∈ as, key a = k
  /-- They stand in the order in which they first occur among the elements. -/
  inOrder : (buckets.map (·.1)).Pairwise fun k k' =>
    (as.map key).idxOf k < (as.map key).idxOf k'
  /-- The bucket of a key holds the elements with this key, in the order of the list. -/
  bucket_eq : ∀ b ∈ buckets, b.2 = as.filter fun a => key a = b.1

namespace Division

variable [DecidableEq κ] {key : α → κ} {as : List α} {buckets buckets' : List (κ × List α)}

theorem nodup_keys (h : Division key as buckets) : (buckets.map (·.1)).Nodup := by
  refine h.inOrder.imp ?_
  rintro k _ hlt rfl
  exact Nat.lt_irrefl _ hlt

/-- A key stands for no bucket unless an element has it. -/
theorem bucket_ne_nil (h : Division key as buckets) {b : κ × List α} (hb : b ∈ buckets) :
    b.2 ≠ [] := by
  obtain ⟨a, ha, hkey⟩ := (h.mem_keys b.1).mp (List.mem_map_of_mem hb)
  rw [h.bucket_eq b hb]
  exact List.ne_nil_of_mem (List.mem_filter.mpr ⟨ha, decide_eq_true hkey⟩)

/-- The buckets are known by their keys. -/
theorem eq_map (h : Division key as buckets) :
    buckets = (buckets.map (·.1)).map fun k => (k, as.filter fun a => key a = k) := by
  rw [List.map_map]
  refine (List.map_id buckets).symm.trans (List.map_congr_left fun b hb => ?_)
  exact Prod.ext rfl (h.bucket_eq b hb)

/-- **There is one division of a list by a key.** -/
theorem unique (h : Division key as buckets) (h' : Division key as buckets') :
    buckets = buckets' := by
  have hperm : (buckets.map (·.1)).Perm (buckets'.map (·.1)) := by
    rw [List.perm_ext_iff_of_nodup h.nodup_keys h'.nodup_keys]
    exact fun k => (h.mem_keys k).trans (h'.mem_keys k).symm
  have hkeys : buckets.map (·.1) = buckets'.map (·.1) :=
    hperm.eq_of_pairwise (fun _ _ _ _ hlt hgt => absurd hgt hlt.asymm) h.inOrder h'.inOrder
  rw [h.eq_map, h'.eq_map, hkeys]

/-- **The buckets together** hold every element as often as the list does. -/
theorem perm [DecidableEq α] (h : Division key as buckets) : (buckets.flatMap (·.2)).Perm as := by
  have hall : ∀ a ∈ as, key a ∈ buckets.map (·.1) := fun a ha =>
    (h.mem_keys (key a)).mpr ⟨a, ha, rfl⟩
  rw [h.eq_map, List.flatMap_map]
  exact perm_flatMap_filter key h.nodup_keys hall

end Division

/-- **Grouping divides a list**, whatever the key. -/
theorem division_groupBy [DecidableEq κ] (key : α → κ) (as : List α) :
    Division key as (groupBy key as) where
  mem_keys k := by rw [keys_groupBy, mem_distinct, List.mem_map]
  inOrder := by
    rw [keys_groupBy]
    exact pairwise_distinct _
  bucket_eq b hb := by
    rw [groupBy_eq] at hb
    obtain ⟨k, _, rfl⟩ := List.mem_map.mp hb
    rfl

/-! ## 3. Collections -/

namespace Collection

variable [DecidableEq κ]

/-- **Grouping the items of a collection** by any key. The keys are those of the items, no two of
    them are the same, and they stand in the order in which they first occur; the bucket of a key
    holds the items with this key in the order of the collection, at least one. So there is only
    one such grouping, and its buckets are the collection in another order. The figures are taken
    for the same keys, of the items that have the key. -/
theorem groupBy_divides (c : Collection) (key : Item → κ) :
    ((c.groupBy key).map (·.1)).Nodup ∧
    Division key c.items (c.groupBy key) ∧
    (∀ b ∈ c.groupBy key, b.2 ≠ []) ∧
    (∀ buckets, Division key c.items buckets → buckets = c.groupBy key) ∧
    ((c.groupBy key).flatMap (·.2)).Perm c.items ∧
    (c.countBy key).map (·.1) = (c.groupBy key).map (·.1) ∧
    ∀ k counts, (k, counts) ∈ c.countBy key ↔ (∃ i ∈ c.items, key i = k) ∧
      counts = .ofItems (c.items.filter fun i => key i = k) := by
  have hdivided : Division key c.items (c.groupBy key) := division_groupBy key c.items
  have hkeys : (c.countBy key).map (·.1) = (c.groupBy key).map (·.1) :=
    (c.keys_countBy key).trans (keys_groupBy key c.items).symm
  exact ⟨hdivided.nodup_keys, hdivided, fun _ => hdivided.bucket_ne_nil,
    fun _ hbuckets => hbuckets.unique hdivided, hdivided.perm, hkeys, fun _ _ => mem_countBy⟩

end Collection

end PeppolStatistics
