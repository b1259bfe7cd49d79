import PeppolStatistics.Proofs.Grouping.Rollup
import PeppolStatistics.Proofs.Report.Agreement
import PeppolStatistics.Proofs.Report.SubsetKeys

/-!
# End users and messages

In the end user statistics the number of end users and the number of messages bound each other.
A subset is of one direction, so its figures of the other direction are zero.

* `GroupCounts.Bounded`, `GroupCounts.CountsOf.bounded`: the bounds between the figures of any
  items;
* `GroupCounts.OneWay`, `GroupCounts.CountsOf.oneWay`: the figures of items of one direction;
* `Collection.oneWay_of_mem`: the direction of a subset, read off its keys, is that of all its
  items;
* `Collection.endUserFigures_bounded`: the bounds hold throughout the end user statistics of every
  collection.
-/

namespace PeppolStatistics

/-! ## 1. Figures by direction -/

/-- The other direction. -/
def Direction.opposite : Direction → Direction
  | .sending => .receiving
  | .receiving => .sending

theorem Direction.ne_opposite (d : Direction) : d ≠ d.opposite := by
  cases d
  all_goals decide

namespace GroupCounts

/-- The number of messages of a direction. -/
def messages (c : GroupCounts) : Direction → Int
  | .sending => c.outgoing
  | .receiving => c.incoming

/-- The number of distinct end users of a direction. -/
def endUsers (c : GroupCounts) : Direction → Int
  | .sending => c.sendingEndUsers
  | .receiving => c.receivingEndUsers

/-- **The figures bound each other**: whoever sent or received is counted in both directions
    together, and nobody else is; an end user of a direction has a message in it, and each
    message has an end user. -/
structure Bounded (c : GroupCounts) : Prop where
  max_le : max c.sendingEndUsers c.receivingEndUsers ≤ c.sendingOrReceivingEndUsers
  le_add : c.sendingOrReceivingEndUsers ≤ c.sendingEndUsers + c.receivingEndUsers
  endUsers_le : ∀ d, c.endUsers d ≤ c.messages d
  endUsers_eq_zero_iff : ∀ d, c.endUsers d = 0 ↔ c.messages d = 0

/-- **The figures are of one direction**: the other direction has neither messages nor end users,
    and there is at least one end user, and none without a message. -/
structure OneWay (c : GroupCounts) (d : Direction) : Prop where
  no_messages : c.messages d.opposite = 0
  no_endUsers : c.endUsers d.opposite = 0
  one_le : 1 ≤ c.endUsers d
  endUsers_eq : c.endUsers d = c.sendingOrReceivingEndUsers
  le_messages : c.sendingOrReceivingEndUsers ≤ c.messages d

/-! ## 2. The figures of some items -/

variable {c : GroupCounts} {items : List Item}

theorem CountsOf.messages_eq (h : c.CountsOf items) (d : Direction) :
    c.messages d = (ofDirection d items).length := by
  cases d with
  | sending => exact h.outgoing
  | receiving => exact h.incoming

theorem CountsOf.endUsers_eq (h : c.CountsOf items) (d : Direction) :
    c.endUsers d = (endUserSet (ofDirection d items)).card := by
  cases d with
  | sending => exact h.sendingEndUsers
  | receiving => exact h.receivingEndUsers

end GroupCounts

/-- There are at most as many end users as items. -/
theorem card_endUserSet_le (items : List Item) : (endUserSet items).card ≤ items.length := by
  have hcard := List.toFinset_card_le (items.map (·.endUserId))
  rwa [List.length_map] at hcard

/-- Only where there is no item there is no end user. -/
theorem card_endUserSet_eq_zero_iff (items : List Item) :
    (endUserSet items).card = 0 ↔ items.length = 0 := by
  rw [Finset.card_eq_zero, endUserSet, List.toFinset_eq_empty_iff, List.map_eq_nil_iff,
    List.length_eq_zero_iff]

/-- The end users of both directions are all end users. -/
theorem endUserSet_eq_union (items : List Item) :
    endUserSet items =
      endUserSet (ofDirection .sending items) ∪ endUserSet (ofDirection .receiving items) := by
  ext u
  rw [Finset.mem_union, mem_endUserSet, mem_endUserSet, mem_endUserSet]
  constructor
  · rintro ⟨i, hi, hu⟩
    cases hd : i.direction with
    | sending => exact .inl ⟨i, mem_ofDirection.mpr ⟨hi, hd⟩, hu⟩
    | receiving => exact .inr ⟨i, mem_ofDirection.mpr ⟨hi, hd⟩, hu⟩
  · rintro (⟨i, hi, hu⟩ | ⟨i, hi, hu⟩)
    · exact ⟨i, (mem_ofDirection.mp hi).1, hu⟩
    · exact ⟨i, (mem_ofDirection.mp hi).1, hu⟩

namespace GroupCounts

variable {c : GroupCounts} {items : List Item}

/-- **The figures of any items bound each other.** -/
theorem CountsOf.bounded (h : c.CountsOf items) : c.Bounded := by
  have hsender : endUserSet (ofDirection .sending items) ⊆ endUserSet items :=
    endUserSet_subset fun i hi => (mem_ofDirection.mp hi).1
  have hreceiver : endUserSet (ofDirection .receiving items) ⊆ endUserSet items :=
    endUserSet_subset fun i hi => (mem_ofDirection.mp hi).1
  constructor
  case max_le =>
    have hsenders := Finset.card_le_card hsender
    have hreceivers := Finset.card_le_card hreceiver
    rw [h.sendingEndUsers, h.receivingEndUsers, h.sendingOrReceivingEndUsers]
    omega
  case le_add =>
    have hunion := Finset.card_union_le (endUserSet (ofDirection .sending items))
      (endUserSet (ofDirection .receiving items))
    rw [← endUserSet_eq_union] at hunion
    rw [h.sendingEndUsers, h.receivingEndUsers, h.sendingOrReceivingEndUsers]
    omega
  case endUsers_le =>
    intro d
    have hcard := card_endUserSet_le (ofDirection d items)
    rw [h.endUsers_eq, h.messages_eq]
    omega
  case endUsers_eq_zero_iff =>
    intro d
    have hzero := card_endUserSet_eq_zero_iff (ofDirection d items)
    rw [h.endUsers_eq, h.messages_eq]
    omega

/-- **The figures of items of one direction.** -/
theorem CountsOf.oneWay {d : Direction} (h : c.CountsOf items) (hne : items ≠ [])
    (hd : ∀ i ∈ items, i.direction = d) : c.OneWay d := by
  have hall : ofDirection d items = items :=
    List.filter_eq_self.mpr fun i hi => decide_eq_true (hd i hi)
  have hnone : ofDirection d.opposite items = [] := by
    refine List.filter_eq_nil_iff.mpr fun i hi => ?_
    rw [decide_eq_true_eq, hd i hi]
    exact d.ne_opposite
  have hlength : 0 < items.length := List.length_pos_iff.mpr hne
  have hcard := card_endUserSet_le items
  have hzero := card_endUserSet_eq_zero_iff items
  constructor
  case no_messages =>
    rw [h.messages_eq, hnone]
    rfl
  case no_endUsers =>
    rw [h.endUsers_eq, hnone]
    rfl
  case one_le =>
    rw [h.endUsers_eq, hall]
    omega
  case endUsers_eq => rw [h.endUsers_eq, hall, h.sendingOrReceivingEndUsers]
  case le_messages =>
    rw [h.messages_eq, hall, h.sendingOrReceivingEndUsers]
    omega

end GroupCounts

/-! ## 3. The end user statistics of a collection -/

namespace Collection

variable {c : Collection}

/-- **The direction of a subset** that its keys tell is the one of all its items. -/
theorem oneWay_of_mem {s : EndUserSubset} (hs : s ∈ c.endUserSubsets) :
    ∃ d : Direction, s.direction? = some d.text ∧ s.counts.OneWay d := by
  obtain ⟨g, hg, hgs⟩ := List.mem_map.mp hs
  obtain ⟨_, _, ⟨i, hi, hkey⟩, hcounts⟩ := mem_aggregate.mp hg
  have hdirection : Dimension.direction ∈ endUserDimensions := by decide
  refine ⟨i.direction, ?_, ?_⟩
  · rw [← hgs]
    exact valueOf?_subsetKeys hg hkey hdirection
  · have hmember : i ∈ c.withKey endUserDimensions g.key := mem_withKey.mpr ⟨hi, hkey⟩
    have hall : ∀ j ∈ c.withKey endUserDimensions g.key, j.direction = i.direction := by
      intro j hj
      have hvalue := valueOf_eq hg hdirection (mem_withKey.mp hj).2
      rw [valueOf_eq hg hdirection hkey] at hvalue
      exact (KeyField.direction.inj (Except.ok.inj hvalue)).symm
    rw [← hgs]
    show g.counts.OneWay i.direction
    rw [hcounts]
    exact (GroupCounts.countsOf_ofItems _).oneWay (List.ne_nil_of_mem hmember) hall

/-- **The figures of the end user statistics bound each other.** In the end user statistics of a
    collection each subset has the key of a direction, and its figures are of the direction that
    this key names; and the figures of the full set bound each other. These are the figures that
    a builder puts into the report of any complete configuration with this collection. -/
theorem endUserFigures_bounded (c : Collection) :
    (∀ s ∈ c.endUserSubsets,
      (∃ d : Direction, s.direction? = some d.text) ∧
      ∀ d : Direction, s.direction? = some d.text → s.counts.OneWay d) ∧
    c.totals.Bounded ∧
    ∀ (configuration : ReportConfiguration) (t : Trace),
      configuration.firstIncomplete? = none → configuration.items = .collection c →
      ∃ report, (ReportBuilder.build ⟨.eusr, [], configuration⟩ t).1 = .ok (.eusr report) ∧
        report.fullSet = c.totals ∧ report.subsets = c.endUserSubsets := by
  refine ⟨fun s hs => ?_, (GroupCounts.countsOf_ofItems c.items).bounded,
    fun configuration t hcomplete hitems => ?_⟩
  · obtain ⟨d, hd, honeWay⟩ := oneWay_of_mem hs
    refine ⟨⟨d, hd⟩, fun e he => ?_⟩
    have hsame : d = e := Direction.text_injective (Option.some.inj (hd.symm.trans he))
    rwa [← hsame]
  · obtain ⟨p, hperiod⟩ := (ReportConfiguration.firstIncomplete?_eq_none_iff.mp hcomplete).period
    have hbuild := (ReportBuilder.build_answers (b := ⟨.eusr, [], configuration⟩) hcomplete hperiod
      hitems t).fst
    exact ⟨_, hbuild, rfl, rfl⟩

end Collection

/-- The end user statistics of June have a subset of the received invoice, which has neither sent
    messages nor sending end users. -/
theorem endUserFigures_bounded_june :
    juneConfiguration.firstIncomplete? = none ∧
    juneConfiguration.items = .collection ⟨ambiguousInvoices⟩ ∧
    ∃ report,
      (ReportBuilder.build ⟨.eusr, [], juneConfiguration⟩ ⟨.empty, []⟩).1 = .ok (.eusr report) ∧
      ∃ s ∈ report.subsets, s.direction? = some Direction.receiving.text ∧
        s.counts.outgoing = 0 ∧ s.counts.sendingEndUsers = 0 ∧
        1 ≤ s.counts.receivingEndUsers ∧
        s.counts.receivingEndUsers = s.counts.sendingOrReceivingEndUsers ∧
        s.counts.sendingOrReceivingEndUsers ≤ s.counts.incoming := by
  have hcomplete : juneConfiguration.firstIncomplete? = none := by decide
  obtain ⟨hsubsets, _, hbuilt⟩ := Collection.endUserFigures_bounded ⟨ambiguousInvoices⟩
  obtain ⟨report, hbuild, _, hreport⟩ := hbuilt juneConfiguration ⟨.empty, []⟩ hcomplete rfl
  have hdims : Collection.endUserDimensions ≠ [] := by decide
  -- the subset of the second invoice, which was received
  obtain ⟨g, hg, hkey⟩ := List.mem_map.mp ((Collection.mem_keys_aggregate hdims).mpr
    ⟨_, List.mem_cons_of_mem _ List.mem_cons_self, rfl⟩)
  have hs : ⟨subsetType Collection.endUserDimensions, g.subsetKeys, g.counts⟩ ∈
      Collection.endUserSubsets ⟨ambiguousInvoices⟩ := List.mem_map_of_mem hg
  have hdirection : SubsetKey.valueOf? "DIR" g.subsetKeys = some Direction.receiving.text :=
    Collection.valueOf?_subsetKeys hg hkey.symm (d := .direction) (by decide)
  have honeWay := (hsubsets _ hs).2 .receiving hdirection
  rw [← hreport] at hs
  exact ⟨hcomplete, rfl, report, hbuild, _, hs, hdirection, honeWay.no_messages,
    honeWay.no_endUsers, honeWay.one_le, honeWay.endUsers_eq, honeWay.le_messages⟩

end PeppolStatistics
