import PeppolStatistics.Proofs.Grouping.Partition
import PeppolStatistics.Proofs.Report.Build

/-!
# The two reports of one configuration

Both kinds of report are built from a complete configuration with a collection of items. Their
figures are found by separate ways and agree all the same.

* `Report.Agree`: what the agreement consists of;
* `Collection.sameGroups`: the subsets of both reports, position by position;
* `ReportConfiguration.reports_agree`: both reports are built, and they agree.
-/

namespace PeppolStatistics

/-! ## 1. Subsets of both reports -/

/-- Two subsets are of the same group, with the same numbers of messages. -/
structure TransactionSubset.SameGroup (s : TransactionSubset) (s' : EndUserSubset) : Prop where
  type : s.type = s'.type
  keys : s.keys = s'.keys
  incoming : s.incoming = s'.counts.incoming
  outgoing : s.outgoing = s'.counts.outgoing

namespace Collection

/-- **By the dimensions of the end user statistics**, both reports have the same groups. -/
theorem sameGroups (c : Collection) :
    List.Forall₂ TransactionSubset.SameGroup (c.transactionSubsets endUserDimensions)
      c.endUserSubsets := by
  rw [transactionSubsets, endUserSubsets, List.forall₂_map_left_iff, List.forall₂_map_right_iff,
    List.forall₂_same]
  exact fun g _ => ⟨rfl, rfl, rfl, rfl⟩

end Collection

/-! ## 2. Agreement -/

/-- **The two reports over some items agree**: both totals are the numbers of messages by
    direction, the subsets of each report add up to its totals, and grouped by the same dimensions
    the subsets are the same one by one. The transaction statistics are grouped by `dims`. -/
structure Report.Agree (items : List Item) (dims : List Dimension) (tsr : TransactionStatistics)
    (eusr : EndUserStatistics) : Prop where
  total_incoming : tsr.total.incoming = (ofDirection .receiving items).length
  total_outgoing : tsr.total.outgoing = (ofDirection .sending items).length
  fullSet_incoming : eusr.fullSet.incoming = (ofDirection .receiving items).length
  fullSet_outgoing : eusr.fullSet.outgoing = (ofDirection .sending items).length
  sum_incoming : dims ≠ [] → (tsr.subsets.map (·.incoming)).sum = tsr.total.incoming
  sum_outgoing : dims ≠ [] → (tsr.subsets.map (·.outgoing)).sum = tsr.total.outgoing
  sum_fullSet_incoming : (eusr.subsets.map (·.counts.incoming)).sum = eusr.fullSet.incoming
  sum_fullSet_outgoing : (eusr.subsets.map (·.counts.outgoing)).sum = eusr.fullSet.outgoing
  subsets : dims = Collection.endUserDimensions →
    List.Forall₂ TransactionSubset.SameGroup tsr.subsets eusr.subsets

/-- Reports with the figures of one collection agree. -/
theorem Collection.agree (c : Collection) (dims : List Dimension) {tsr : TransactionStatistics}
    {eusr : EndUserStatistics} (htotal : tsr.total = c.transactionTotal)
    (hsubsets : tsr.subsets = c.transactionSubsets dims) (hfullSet : eusr.fullSet = c.totals)
    (hendUsers : eusr.subsets = c.endUserSubsets) : Report.Agree c.items dims tsr eusr := by
  have hcounts := GroupCounts.countsOf_ofItems c.items
  constructor
  · rw [htotal]
    exact hcounts.incoming
  · rw [htotal]
    exact hcounts.outgoing
  · rw [hfullSet]
    exact hcounts.incoming
  · rw [hfullSet]
    exact hcounts.outgoing
  · intro hd
    rw [htotal, hsubsets, transactionSubsets, List.map_map]
    exact sum_incoming hd c
  · intro hd
    rw [htotal, hsubsets, transactionSubsets, List.map_map]
    exact sum_outgoing hd c
  · rw [hfullSet, hendUsers, endUserSubsets, List.map_map]
    exact sum_incoming (List.cons_ne_nil _ _) c
  · rw [hfullSet, hendUsers, endUserSubsets, List.map_map]
    exact sum_outgoing (List.cons_ne_nil _ _) c
  · rintro rfl
    rw [hsubsets, hendUsers]
    exact c.sameGroups

/-! ## 3. Building both reports -/

namespace ReportConfiguration

/-- **One configuration, two reports.** From a complete configuration with a collection of items,
    both builders make their report in any log context, whatever values name the dimensions of the
    transaction statistics; and the two reports agree. -/
theorem reports_agree (c : ReportConfiguration) (items : Collection)
    (hcomplete : c.firstIncomplete? = none) (hitems : c.items = .collection items)
    (values : List Value) (dims : List Dimension) (hdims : Dimension.ofValues values = .ok dims)
    (t t' : Trace) :
    ∃ tsr eusr,
      (ReportBuilder.build ⟨.tsr, values, c⟩ t).1 = .ok (.tsr tsr) ∧
      (ReportBuilder.build ⟨.eusr, [], c⟩ t').1 = .ok (.eusr eusr) ∧
      Report.Agree items.items dims tsr eusr := by
  obtain ⟨p, hperiod⟩ := (firstIncomplete?_eq_none_iff.mp hcomplete).period
  have htsr := (ReportBuilder.build_answers (b := ⟨.tsr, values, c⟩) hcomplete hperiod hitems t).fst
  have heusr := (ReportBuilder.build_answers (b := ⟨.eusr, [], c⟩) hcomplete hperiod hitems t').fst
  rw [ReportBuilder.assemble, hdims] at htsr
  exact ⟨_, _, htsr, heusr, items.agree dims rfl rfl rfl rfl⟩

end ReportConfiguration

/-- The transaction statistics of June 2023 over two invoices. -/
def juneConfiguration : ReportConfiguration :=
  { ReportConfiguration.default .tsr with
    startDate := Date.ofParts? 2023 6 1
    endDate := Date.ofParts? 2023 6 30
    reporterId := .text "POP000001"
    items := .collection ⟨ambiguousInvoices⟩ }

/-- The reports of June have one message in each direction, and their subsets by country, document
    type, process and direction are the same. -/
theorem reports_agree_june :
    juneConfiguration.firstIncomplete? = none ∧
    juneConfiguration.items = .collection ⟨ambiguousInvoices⟩ ∧
    Dimension.ofValues (Collection.endUserDimensions.map fun d => .text d.text) =
      .ok Collection.endUserDimensions ∧
    ∃ tsr eusr,
      (ReportBuilder.build
        ⟨.tsr, Collection.endUserDimensions.map fun d => .text d.text, juneConfiguration⟩
        ⟨.empty, []⟩).1 = .ok (.tsr tsr) ∧
      (ReportBuilder.build ⟨.eusr, [], juneConfiguration⟩ ⟨.empty, []⟩).1 = .ok (.eusr eusr) ∧
      tsr.total.incoming = 1 ∧ tsr.total.outgoing = 1 ∧
      List.Forall₂ TransactionSubset.SameGroup tsr.subsets eusr.subsets := by
  have hcomplete : juneConfiguration.firstIncomplete? = none := by decide
  have hdims : Dimension.ofValues (Collection.endUserDimensions.map fun d => .text d.text) =
      .ok Collection.endUserDimensions := by rfl
  obtain ⟨tsr, eusr, htsr, heusr, hagree⟩ := ReportConfiguration.reports_agree juneConfiguration
    ⟨ambiguousInvoices⟩ hcomplete rfl _ _ hdims ⟨.empty, []⟩ ⟨.empty, []⟩
  exact ⟨hcomplete, rfl, hdims, tsr, eusr, htsr, heusr, hagree.total_incoming,
    hagree.total_outgoing, hagree.subsets rfl⟩

end PeppolStatistics
