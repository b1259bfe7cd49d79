import PeppolStatistics.Document.Basic

/-!
# Entries with names

What `Document.put` and `Document.collapse` do to a list of named values: a look-up finds the last
value put under its name (`lookup_put`, `lookup_putAll_eq`, `lookup_collapse`), the names stay
different (`nodup_putAll`), no value comes from elsewhere (`mem_putAll`), and entries whose names
differ already stay as they are (`collapse_of_nodup`).
-/

namespace PeppolStatistics

namespace Document

variable {α β : Type}

/-! ## 1. Look-ups -/

theorem lookup_cons (k : String) (v : α) (es : List (String × α)) (n : String) :
    ((k, v) :: es).lookup n = if n = k then some v else es.lookup n := by
  rw [List.lookup_cons]
  by_cases h : n = k
  · rw [if_pos h, beq_iff_eq.mpr h]
  · rw [if_neg h, beq_false_of_ne h]

theorem lookup_eq_none_iff {es : List (String × α)} {n : String} :
    es.lookup n = none ↔ n ∉ es.map (·.1) := by
  refine List.lookup_eq_none_iff.trans ⟨fun h hmem => ?_, fun h e he => bne_iff_ne.mpr ?_⟩
  · obtain ⟨e, he, rfl⟩ := List.mem_map.mp hmem
    exact absurd rfl (bne_iff_ne.mp (h e he))
  · rintro rfl
    exact h (List.mem_map_of_mem he)

/-- A test of the names leaves the entries whose names pass it. -/
theorem lookup_filter (test : String → Bool) {n : String} (h : test n = true)
    (es : List (String × α)) : (es.filter fun e => test e.1).lookup n = es.lookup n := by
  induction es with
  | nil => rfl
  | cons e es ih =>
    obtain ⟨k, v⟩ := e
    rw [List.filter_cons, lookup_cons, ← ih]
    split
    · rw [lookup_cons]
    · rename_i hk
      rw [if_neg]
      rintro rfl
      exact hk h

/-- Names may be replaced if different ones stay different. -/
theorem lookup_rename {rename : String → String} (h : Function.Injective rename)
    (es : List (String × α)) (n : String) :
    (es.map fun e => (rename e.1, e.2)).lookup (rename n) = es.lookup n := by
  induction es with
  | nil => rfl
  | cons e es ih =>
    obtain ⟨k, v⟩ := e
    rw [List.map_cons, lookup_cons, lookup_cons, ih]
    by_cases hn : n = k
    · rw [if_pos hn, if_pos (congrArg rename hn)]
    · rw [if_neg hn, if_neg fun he => hn (h he)]

/-! ## 2. One entry -/

theorem lookup_put (key : String) (value : α) (es : List (String × α)) (n : String) :
    (put key value es).lookup n = if n = key then some value else es.lookup n := by
  induction es with
  | nil => rw [put_nil, lookup_cons]
  | cons e es ih =>
    obtain ⟨k, v⟩ := e
    rw [put]
    split
    · rename_i hk
      rw [lookup_cons, lookup_cons, hk]
      split <;> rfl
    · rename_i hk
      rw [lookup_cons, lookup_cons, ih]
      split
      · rename_i hn
        rw [if_neg (hn ▸ hk)]
      · rfl

/-- A new name comes behind the others. -/
theorem names_put (key : String) (value : α) (es : List (String × α)) :
    (put key value es).map (·.1) =
      if key ∈ es.map (·.1) then es.map (·.1) else es.map (·.1) ++ [key] := by
  induction es with
  | nil => rfl
  | cons e es ih =>
    obtain ⟨k, v⟩ := e
    simp only [put, List.map_cons, List.mem_cons]
    by_cases hk : k = key
    · rw [if_pos hk, if_pos (.inl hk.symm)]
      rfl
    · rw [if_neg hk, List.map_cons, ih]
      simp only [Ne.symm hk, false_or]
      split <;> rfl

/-- An entry under a new name comes behind the others. -/
theorem put_of_not_mem {key : String} (value : α) {es : List (String × α)}
    (h : key ∉ es.map (·.1)) : put key value es = es ++ [(key, value)] := by
  induction es with
  | nil => rfl
  | cons e es ih =>
    obtain ⟨k, v⟩ := e
    rw [List.map_cons, List.mem_cons, not_or] at h
    rw [put, if_neg (Ne.symm h.1), ih h.2]
    rfl

theorem nodup_new {names : List String} (h : names.Nodup) (n : String) :
    (if n ∈ names then names else names ++ [n]).Nodup := by
  split
  · exact h
  · rename_i hn
    refine List.nodup_append.mpr ⟨h, List.pairwise_singleton _ n, ?_⟩
    rintro m hm k hk rfl
    exact hn (List.mem_singleton.mp hk ▸ hm)

theorem mem_put {key : String} {value : α} {es : List (String × α)} {e : String × α}
    (h : e ∈ put key value es) : e = (key, value) ∨ e ∈ es := by
  induction es with
  | nil => exact .inl (List.mem_singleton.mp h)
  | cons d es ih =>
    obtain ⟨k, v⟩ := d
    rw [put] at h
    split at h
    · rename_i hk
      rcases List.mem_cons.mp h with h | h
      · exact .inl (hk ▸ h)
      · exact .inr (List.mem_cons_of_mem _ h)
    · rcases List.mem_cons.mp h with h | h
      · exact .inr (h ▸ List.mem_cons_self)
      · exact (ih h).imp_right (List.mem_cons_of_mem _)

/-- A function on the values may be applied afterwards. -/
theorem map_put (f : α → β) (key : String) (value : α) (es : List (String × α)) :
    (put key value es).map (fun e => (e.1, f e.2)) =
      put key (f value) (es.map fun e => (e.1, f e.2)) := by
  induction es with
  | nil => rfl
  | cons e es ih =>
    obtain ⟨k, v⟩ := e
    rw [put, List.map_cons, put]
    split
    · rfl
    · rw [List.map_cons, ih]

/-! ## 3. Several entries -/

/-- Some entries with further ones put one after the other. -/
def putAll (es fs : List (String × α)) : List (String × α) :=
  fs.foldl (fun es e => put e.1 e.2 es) es

theorem putAll_append (es fs gs : List (String × α)) :
    putAll es (fs ++ gs) = putAll (putAll es fs) gs :=
  List.foldl_append

/-- **A look-up finds what was put last** under its name, or else what was there before. -/
theorem lookup_putAll_eq (es fs : List (String × α)) (n : String) :
    (putAll es fs).lookup n = (fs.reverse.lookup n).or (es.lookup n) := by
  induction fs generalizing es with
  | nil => rfl
  | cons f fs ih =>
    show (putAll (put f.1 f.2 es) fs).lookup n = _
    rw [ih, lookup_put, List.reverse_cons, List.lookup_append, lookup_cons, Option.or_assoc]
    split <;> rfl

/-- What is put under other names does not change a look-up. -/
theorem lookup_putAll {fs : List (String × α)} {n : String} (h : n ∉ fs.map (·.1))
    (es : List (String × α)) : (putAll es fs).lookup n = es.lookup n := by
  have hnone : fs.reverse.lookup n = none := by
    rw [lookup_eq_none_iff, List.map_reverse, List.mem_reverse]
    exact h
  rw [lookup_putAll_eq, hnone, Option.none_or]

/-- **Names that differ stay different.** -/
theorem nodup_putAll {es : List (String × α)} (h : (es.map (·.1)).Nodup)
    (fs : List (String × α)) : ((putAll es fs).map (·.1)).Nodup := by
  induction fs generalizing es with
  | nil => exact h
  | cons f fs ih =>
    have hput : ((put f.1 f.2 es).map (·.1)).Nodup := by
      rw [names_put]
      exact nodup_new h f.1
    exact ih hput

theorem mem_putAll {es fs : List (String × α)} {e : String × α} (h : e ∈ putAll es fs) :
    e ∈ es ∨ e ∈ fs := by
  induction fs generalizing es with
  | nil => exact .inl h
  | cons f fs ih =>
    have hrest : e ∈ put f.1 f.2 es ∨ e ∈ fs := ih h
    rcases hrest with h | h
    · rcases mem_put h with h | h
      · exact .inr (h ▸ List.mem_cons_self)
      · exact .inl h
    · exact .inr (List.mem_cons_of_mem _ h)

/-- Entries under new names come behind the others as they are. -/
theorem putAll_of_nodup {es fs : List (String × α)} (h : ((es ++ fs).map (·.1)).Nodup) :
    putAll es fs = es ++ fs := by
  induction fs generalizing es with
  | nil => exact (List.append_nil es).symm
  | cons f fs ih =>
    have hsplit : es ++ f :: fs = (es ++ [f]) ++ fs := by rw [List.append_assoc]; rfl
    rw [hsplit] at h ⊢
    have hnew : f.1 ∉ es.map (·.1) := by
      rw [List.map_append, List.map_append] at h
      obtain ⟨_, _, hapart⟩ := List.nodup_append.mp (List.nodup_append.mp h).1
      exact fun hmem => hapart f.1 hmem f.1 (List.mem_singleton.mpr rfl) rfl
    show putAll (put f.1 f.2 es) fs = _
    rw [put_of_not_mem f.2 hnew, ih h]

/-! ## 4. Each name once -/

theorem nodup_collapse (es : List (String × α)) : ((collapse es).map (·.1)).Nodup := by
  have hnone : (([] : List (String × α)).map (·.1)).Nodup := List.nodup_nil
  exact nodup_putAll hnone es

/-- Of the entries with one name the last one counts. -/
theorem lookup_collapse (es : List (String × α)) (n : String) :
    (collapse es).lookup n = es.reverse.lookup n :=
  (lookup_putAll_eq [] es n).trans Option.or_none

theorem mem_of_mem_collapse {es : List (String × α)} {e : String × α} (h : e ∈ collapse es) :
    e ∈ es :=
  (mem_putAll h).resolve_left List.not_mem_nil

/-- Entries whose names differ stay as they are. -/
theorem collapse_of_nodup {es : List (String × α)} (h : (es.map (·.1)).Nodup) :
    collapse es = es := by
  have hall : (([] ++ es : List (String × α)).map (·.1)).Nodup := h
  exact putAll_of_nodup hall

/-- Where names differ, it is the same to look up from the end. -/
theorem lookup_reverse {es : List (String × α)} (h : (es.map (·.1)).Nodup) (n : String) :
    es.reverse.lookup n = es.lookup n := by
  rw [← lookup_collapse, collapse_of_nodup h]

/-- A function on the values may be applied afterwards. -/
theorem map_collapse (f : α → β) (es : List (String × α)) :
    (collapse es).map (fun e => (e.1, f e.2)) = collapse (es.map fun e => (e.1, f e.2)) := by
  have hstep : ∀ (fs base : List (String × α)), (putAll base fs).map (fun e => (e.1, f e.2)) =
      putAll (base.map fun e => (e.1, f e.2)) (fs.map fun e => (e.1, f e.2)) := by
    intro fs
    induction fs with
    | nil => exact fun _ => rfl
    | cons e fs ih =>
      intro base
      show (putAll (put e.1 e.2 base) fs).map _ = _
      rw [ih, map_put]
      rfl
  exact hstep es []

end Document

end PeppolStatistics
