import Mathlib.Data.List.Induction
import Mathlib.Data.List.Nodup
import PeppolStatistics.Grouping.Buckets

/-!
# What a distribution over buckets holds

`groupBy` fills its buckets element by element. Here it is described without the loop.

* `groupBy_eq`: there is one bucket per distinct key, in the order in which the keys first occur,
  and the bucket of a key holds the elements with this key in the order of the list;
* `keys_groupBy`, `nodup_keys_groupBy`: the keys of the buckets are those of the elements, each
  once;
* `groupBy_perm`: another order of the elements permutes the buckets, and the elements in each.
-/

namespace PeppolStatistics

variable {α κ : Type}

/-! ## 1. Distinct elements -/

theorem nodup_distinct [DecidableEq α] (as : List α) : (distinct as).Nodup := by
  induction as with
  | nil => exact List.nodup_nil
  | cons a as ih =>
    rw [distinct, List.nodup_cons]
    refine ⟨fun h => ?_, ih.filter _⟩
    simp at h

/-- One more element at the end is kept unless it occurred before. -/
theorem distinct_concat [DecidableEq α] (as : List α) (a : α) :
    distinct (as ++ [a]) = if a ∈ as then distinct as else distinct as ++ [a] := by
  induction as with
  | nil => rfl
  | cons b as ih =>
    rw [List.cons_append, distinct, ih]
    by_cases hb : a = b
    · subst hb
      by_cases ha : a ∈ as
      · simp [ha, distinct]
      · simp [ha, distinct]
    · by_cases ha : a ∈ as
      · simp [ha, distinct]
      · simp [ha, hb, distinct]

theorem distinct_perm [DecidableEq α] {as bs : List α} (h : as.Perm bs) :
    (distinct as).Perm (distinct bs) := by
  rw [List.perm_ext_iff_of_nodup (nodup_distinct as) (nodup_distinct bs)]
  intro a
  rw [mem_distinct, mem_distinct]
  exact h.mem_iff

/-! ## 2. One more element in a table of buckets -/

section Table

variable [DecidableEq κ]

/-- The bucket of a key that has one grows at its end; the others stay. -/
theorem insertBucket_of_mem {ks : List κ} {k : κ} (hn : ks.Nodup) (hk : k ∈ ks) (a : α)
    (bucket : κ → List α) :
    insertBucket k a (ks.map fun k' => (k', bucket k')) =
      ks.map fun k' => (k', if k' = k then bucket k' ++ [a] else bucket k') := by
  induction ks with
  | nil => exact absurd hk List.not_mem_nil
  | cons k' ks ih =>
    obtain ⟨hk', hks⟩ := List.nodup_cons.mp hn
    by_cases he : k' = k
    · subst he
      have hrest : ∀ k₁ ∈ ks, (k₁, bucket k₁) =
          (k₁, if k₁ = k' then bucket k₁ ++ [a] else bucket k₁) := by
        intro k₁ h₁
        have hne : k₁ ≠ k' := fun e => hk' (e ▸ h₁)
        rw [if_neg hne]
      simp only [List.map_cons, insertBucket, if_true]
      rw [List.map_congr_left hrest]
    · have hmem : k ∈ ks := (List.mem_cons.mp hk).resolve_left fun e => he e.symm
      simp only [List.map_cons, insertBucket, if_neg he]
      rw [ih hks hmem]

/-- A key without a bucket gets one behind the others. -/
theorem insertBucket_of_not_mem {ks : List κ} {k : κ} (hk : k ∉ ks) (a : α)
    (bucket : κ → List α) :
    insertBucket k a (ks.map fun k' => (k', bucket k')) =
      (ks.map fun k' => (k', bucket k')) ++ [(k, [a])] := by
  induction ks with
  | nil => rfl
  | cons k' ks ih =>
    have he : k' ≠ k := fun e => hk (e ▸ List.mem_cons_self)
    simp only [List.map_cons, insertBucket, if_neg he, List.cons_append]
    rw [ih fun h => hk (List.mem_cons_of_mem k' h)]

/-! ## 3. All elements -/

theorem groupBy_concat (key : α → κ) (as : List α) (a : α) :
    groupBy key (as ++ [a]) = insertBucket (key a) a (groupBy key as) := by
  rw [groupBy, List.foldl_append]
  rfl

/-- **The buckets without the loop**: one per distinct key, with the elements of that key. -/
theorem groupBy_eq (key : α → κ) (as : List α) :
    groupBy key as =
      (distinct (as.map key)).map fun k => (k, as.filter fun a => key a = k) := by
  induction as using List.reverseRecOn with
  | nil => rfl
  | append_singleton as a ih =>
    rw [groupBy_concat, ih, List.map_append, List.map_singleton, distinct_concat]
    by_cases hk : key a ∈ as.map key
    · rw [if_pos hk, insertBucket_of_mem (nodup_distinct _) (mem_distinct.mpr hk)]
      refine List.map_congr_left fun k _ => ?_
      rw [List.filter_append]
      by_cases he : k = key a
      · simp [he]
      · simp [he, Ne.symm he]
    · rw [if_neg hk, insertBucket_of_not_mem (mt mem_distinct.mp hk), List.map_append]
      have hempty : (as.filter fun b => key b = key a) = [] := by
        refine List.filter_eq_nil_iff.mpr fun b hb => ?_
        simp only [decide_eq_true_eq]
        exact fun e => hk (e ▸ List.mem_map_of_mem hb)
      congr 1
      · refine List.map_congr_left fun k hk' => ?_
        have he : key a ≠ k := fun e => hk (e ▸ mem_distinct.mp hk')
        simp [List.filter_append, he]
      · simp [List.filter_append, hempty]

/-- The keys of the buckets, in the order in which they first occur. -/
theorem keys_groupBy (key : α → κ) (as : List α) :
    (groupBy key as).map (·.1) = distinct (as.map key) := by
  rw [groupBy_eq, List.map_map]
  exact List.map_id _

theorem nodup_keys_groupBy (key : α → κ) (as : List α) :
    ((groupBy key as).map (·.1)).Nodup := by
  rw [keys_groupBy]
  exact nodup_distinct _

/-- **The buckets of another order of the elements**: the same keys, and for each key the same
    elements, in another order. -/
theorem groupBy_perm (key : α → κ) {as bs : List α} (h : as.Perm bs) {β : Type}
    (f : List α → β) (hf : ∀ {xs ys : List α}, xs.Perm ys → f xs = f ys) :
    ((groupBy key as).map fun b => (b.1, f b.2)).Perm
      ((groupBy key bs).map fun b => (b.1, f b.2)) := by
  rw [groupBy_eq, groupBy_eq, List.map_map, List.map_map]
  have hkeys := distinct_perm (h.map key)
  refine (hkeys.map _).trans (List.Perm.of_eq (List.map_congr_left fun k _ => ?_))
  exact congrArg (Prod.mk k) (hf (h.filter _))

end Table

end PeppolStatistics
