import PeppolStatistics.Proofs.Report.Subset

/-!
# What the keys of a subset tell

A report shows a group by its type and its keys only. This loses nothing: the type gives the
dimensions back, and the keys give the group back among all groups of the collection.

* `subsetType_injective`: different dimensions make different types, since no short name of a
  dimension holds the mark that joins them;
* `SubsetKey.valueOf?_map`, `SubsetKey.valueOf?_map_of_not_mem`: the key that is found for a
  dimension;
* `Collection.eq_of_subsetKeys`: one group for some keys, also where different identifiers have
  one written form;
* `Collection.subsetKeys_tell`: all of this, for every collection and all dimensions.
-/

namespace PeppolStatistics

/-! ## 1. Types -/

/-- Each dimension is the first of all with its short name. -/
theorem Dimension.find?_metaScheme (d : Dimension) :
    Dimension.all.find? (fun e => e.metaScheme == d.metaScheme) = some d := by
  cases d
  all_goals rfl

theorem Dimension.metaScheme_injective : Function.Injective Dimension.metaScheme := by
  intro d e h
  have hd := d.find?_metaScheme
  rw [h, e.find?_metaScheme] at hd
  exact (Option.some.inj hd).symm

/-- The short name of a dimension is a word without the mark that joins such names. -/
theorem Dimension.metaScheme_word (d : Dimension) :
    d.metaScheme.toList ≠ [] ∧ '-' ∉ d.metaScheme.toList := by
  cases d
  all_goals decide

/-- The short names of some dimensions, joined. -/
def joinedNames (dims : List Dimension) : List Char :=
  ['-'].intercalate (dims.map fun d => d.metaScheme.toList)

theorem toList_subsetType (dims : List Dimension) :
    (subsetType dims).toList = "Per".toList ++ joinedNames dims := by
  rw [subsetType, String.toList_append, String.toList_intercalate, List.map_map]
  rfl

/-- Joined names are taken apart at the marks. -/
theorem splitOn_joinedNames {dims : List Dimension} (hd : dims ≠ []) :
    (joinedNames dims).splitOn '-' = dims.map fun d => d.metaScheme.toList := by
  refine List.splitOn_intercalate '-' ?_ ?_
  · intro name hname
    obtain ⟨d, _, hd⟩ := List.mem_map.mp hname
    rw [← hd]
    exact d.metaScheme_word.2
  · intro hnil
    exact hd (List.map_eq_nil_iff.mp hnil)

/-- Without names there is nothing to take apart, and no name is empty. -/
theorem eq_nil_of_joinedNames {dims : List Dimension} (h : joinedNames dims = []) :
    dims = [] := by
  by_contra hd
  have hsplit := splitOn_joinedNames hd
  rw [h, List.splitOn_nil] at hsplit
  obtain ⟨d, _, hname⟩ := List.mem_map.mp (hsplit ▸ List.mem_singleton_self ([] : List Char))
  exact d.metaScheme_word.1 hname

/-- **Different dimensions make different types.** -/
theorem subsetType_injective : Function.Injective subsetType := by
  intro dims dims' h
  have hjoined : joinedNames dims = joinedNames dims' := by
    have hchars := congrArg String.toList h
    rw [toList_subsetType, toList_subsetType] at hchars
    exact List.append_cancel_left hchars
  by_cases hd : dims = []
  · subst hd
    exact (eq_nil_of_joinedNames hjoined.symm).symm
  · have hd' : dims' ≠ [] := by
      intro hnil
      subst hnil
      exact hd (eq_nil_of_joinedNames hjoined)
    have hnames : (dims.map fun d => d.metaScheme.toList) =
        dims'.map fun d => d.metaScheme.toList := by
      rw [← splitOn_joinedNames hd, hjoined, splitOn_joinedNames hd']
    refine List.map_injective_iff.mpr (fun d e he => ?_) hnames
    exact Dimension.metaScheme_injective (String.toList_inj.mp he)

/-! ## 2. Looking up a key -/

/-- What a report shows of a field: the value of an identifier within its scheme, or the text of
    any other field. -/
def KeyField.shown : KeyField → String
  | .identifier i => i.value
  | f => f.keyText

namespace SubsetKey

theorem metaSchemeId_ofField (d : Dimension) (f : KeyField) :
    (ofField d f).metaSchemeId = d.metaScheme := by
  cases f
  all_goals rfl

theorem value_ofField (d : Dimension) (f : KeyField) : (ofField d f).value = f.shown := by
  cases f
  all_goals rfl

variable {keyOf : Dimension → SubsetKey} {dims : List Dimension} {d : Dimension}

/-- **The key of a dimension is found by its short name**, however often the dimension occurs. -/
theorem valueOf?_map (hname : ∀ e, (keyOf e).metaSchemeId = e.metaScheme) (hd : d ∈ dims) :
    valueOf? d.metaScheme (dims.map keyOf) = some (keyOf d).value := by
  induction dims with
  | nil => exact absurd hd List.not_mem_nil
  | cons e dims ih =>
    by_cases he : e = d
    · subst he
      have hfound : ((keyOf e).metaSchemeId == e.metaScheme) = true := by
        rw [hname e]
        exact beq_self_eq_true _
      rw [valueOf?, List.map_cons, List.find?_cons, hfound]
      rfl
    · have hother : ((keyOf e).metaSchemeId == d.metaScheme) = false := by
        rw [hname e, beq_eq_false_iff_ne]
        exact fun h => he (Dimension.metaScheme_injective h)
      have hrest : d ∈ dims := (List.mem_cons.mp hd).resolve_left fun h => he h.symm
      rw [valueOf?, List.map_cons, List.find?_cons, hother]
      exact ih hrest

/-- For a dimension that does not occur no key is found. -/
theorem valueOf?_map_of_not_mem (hname : ∀ e, (keyOf e).metaSchemeId = e.metaScheme)
    (hd : d ∉ dims) : valueOf? d.metaScheme (dims.map keyOf) = none := by
  have hnone : (dims.map keyOf).find? (fun k => k.metaSchemeId == d.metaScheme) = none := by
    refine List.find?_eq_none.mpr fun k hk => ?_
    obtain ⟨e, he, hke⟩ := List.mem_map.mp hk
    rw [← hke, hname e, beq_iff_eq]
    intro h
    exact hd (Dimension.metaScheme_injective h ▸ he)
  rw [valueOf?, hnone]
  rfl

end SubsetKey

/-! ## 3. The groups of a collection -/

namespace Collection

variable {c : Collection} {dims : List Dimension}

/-- The value that the keys of a group tell of a dimension. -/
theorem valueOf?_subsetKeys {g : GroupAggregate} (hg : g ∈ c.aggregate dims) {i : Item}
    (hi : i.key dims = g.key) {d : Dimension} (hd : d ∈ dims) :
    SubsetKey.valueOf? d.metaScheme g.subsetKeys = some (d.field i).shown := by
  rw [subsetKeys_eq hg hi, SubsetKey.valueOf?_map (fun e => SubsetKey.metaSchemeId_ofField e _) hd,
    SubsetKey.value_ofField]

/-- **One group for some keys**: equal keys of subsets have equal sort keys, and sort keys tell the
    groups of a collection apart. -/
theorem eq_of_subsetKeys {g g' : GroupAggregate} (hg : g ∈ c.aggregate dims)
    (hg' : g' ∈ c.aggregate dims) (h : g.subsetKeys = g'.subsetKeys) : g = g' := by
  obtain ⟨_, hdims, ⟨i, _, hi⟩, hcounts⟩ := mem_aggregate.mp hg
  obtain ⟨_, hdims', ⟨j, _, hj⟩, hcounts'⟩ := mem_aggregate.mp hg'
  have hsort : GroupKey.sortKey g.key = GroupKey.sortKey g'.key := by
    rw [← sortKey_subsetKeys hg, h, sortKey_subsetKeys hg']
  have hkey : g.key = g'.key := by
    rw [← hi, ← hj] at hsort ⊢
    exact Item.key_eq_of_sortKey hsort
  obtain ⟨dimensions, key, counts⟩ := g
  obtain ⟨dimensions', key', counts'⟩ := g'
  simp only at hdims hdims' hkey hcounts hcounts'
  rw [hdims, hdims', hkey, hcounts, hcounts', hkey]

/-- **What the keys of a subset tell.** Among the groups of a collection by some dimensions, no two
    have the same keys. A group has one key for each dimension, in their order, and the type of
    the subsets is made of the names of these keys. For each of the dimensions the keys give what
    the group shows of its value there, and for every other dimension they give nothing. And the
    type gives the dimensions back. -/
theorem subsetKeys_tell (c : Collection) (dims : List Dimension) :
    (∀ g ∈ c.aggregate dims, ∀ g' ∈ c.aggregate dims, g.subsetKeys = g'.subsetKeys → g = g') ∧
    (∀ g ∈ c.aggregate dims,
      g.subsetKeys.map (·.metaSchemeId) = dims.map (·.metaScheme) ∧
      subsetType dims = "Per" ++ "-".intercalate (g.subsetKeys.map (·.metaSchemeId)) ∧
      (∀ d ∈ dims, ∃ f, g.valueOf d = .ok f ∧
        SubsetKey.valueOf? d.metaScheme g.subsetKeys = some f.shown) ∧
      ∀ d, d ∉ dims → SubsetKey.valueOf? d.metaScheme g.subsetKeys = none) ∧
    ∀ dims', subsetType dims' = subsetType dims → dims' = dims := by
  refine ⟨fun g hg g' hg' h => eq_of_subsetKeys hg hg' h, fun g hg => ?_,
    fun dims' h => subsetType_injective h⟩
  obtain ⟨i, _, hi⟩ := (mem_aggregate.mp hg).2.2.1
  have hnames : g.subsetKeys.map (·.metaSchemeId) = dims.map (·.metaScheme) := by
    rw [subsetKeys_eq hg hi, List.map_map]
    exact List.map_congr_left fun d _ => SubsetKey.metaSchemeId_ofField d _
  refine ⟨hnames, ?_, fun d hd => ?_, fun d hd => ?_⟩
  · rw [hnames, subsetType]
  · exact ⟨d.field i, valueOf_eq hg hd hi, valueOf?_subsetKeys hg hi hd⟩
  · rw [subsetKeys_eq hg hi]
    exact SubsetKey.valueOf?_map_of_not_mem (fun e => SubsetKey.metaSchemeId_ofField e _) hd

end Collection

/-- Two document types with one written form, each shown twice in the keys: the keys of their
    groups differ, the value within the scheme is found, and no country is. -/
theorem subsetKeys_tell_ambiguous :
    longScheme.uri = shortScheme.uri ∧
    ∃ g ∈ Collection.aggregate ⟨ambiguousInvoices⟩ [.documentType, .process, .documentType],
      ∃ g' ∈ Collection.aggregate ⟨ambiguousInvoices⟩ [.documentType, .process, .documentType],
        g.subsetKeys ≠ g'.subsetKeys ∧
        SubsetKey.valueOf? "DT" g.subsetKeys = some "z" ∧
        SubsetKey.valueOf? "DT" g'.subsetKeys = some "y::z" ∧
        SubsetKey.valueOf? "CC" g.subsetKeys = none := by
  have hd : [Dimension.documentType, .process, .documentType] ≠ [] := by decide
  have hgroup : ∀ i ∈ ambiguousInvoices,
      ∃ g ∈ Collection.aggregate ⟨ambiguousInvoices⟩ [.documentType, .process, .documentType],
        g.key = i.key [.documentType, .process, .documentType] := by
    intro i hi
    exact List.mem_map.mp ((Collection.mem_keys_aggregate hd).mpr ⟨i, hi, rfl⟩)
  obtain ⟨g, hg, hkey⟩ := hgroup _ List.mem_cons_self
  obtain ⟨g', hg', hkey'⟩ := hgroup _ (List.mem_cons_of_mem _ List.mem_cons_self)
  obtain ⟨hone, htell, _⟩ := Collection.subsetKeys_tell ⟨ambiguousInvoices⟩
    [.documentType, .process, .documentType]
  refine ⟨by decide, g, hg, g', hg', fun h => ?_, ?_, ?_, ?_⟩
  · have hsame := congrArg GroupAggregate.key (hone g hg g' hg' h)
    rw [hkey, hkey'] at hsame
    exact absurd hsame (by decide)
  · obtain ⟨f, hf, hfound⟩ := (htell g hg).2.2.1 .documentType (by decide)
    rw [Collection.valueOf_eq hg (by decide) hkey.symm] at hf
    cases hf
    exact hfound
  · obtain ⟨f, hf, hfound⟩ := (htell g' hg').2.2.1 .documentType (by decide)
    rw [Collection.valueOf_eq hg' (by decide) hkey'.symm] at hf
    cases hf
    exact hfound
  · exact (htell g hg).2.2.2 .endUserCountry (by decide)

end PeppolStatistics
