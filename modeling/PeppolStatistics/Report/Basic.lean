import PeppolStatistics.Report.Subset

/-!
# Reports

The two reports of a service provider. The transaction statistics hold the total per direction
and, on request, the groups by some dimensions; the end user statistics hold the figures of all
items and of every group by country, document type, process and direction.
-/

namespace PeppolStatistics

/-! ## 1. Parts -/

/-- What both reports begin with: the period and the reporter with the scheme of its name. -/
structure ReportHeader where
  period : ReportPeriod
  reporterId : String
  reporterIdScheme : String
deriving DecidableEq, Repr

/-- Message counts by direction. -/
structure IncomingOutgoing where
  incoming : Int
  outgoing : Int
deriving DecidableEq, Repr

/-- One group of the transaction statistics. -/
structure TransactionSubset where
  type : String
  keys : List SubsetKey
  incoming : Int
  outgoing : Int
deriving DecidableEq, Repr

/-- One group of the end user statistics. -/
structure EndUserSubset where
  type : String
  keys : List SubsetKey
  counts : GroupCounts
deriving DecidableEq, Repr

namespace EndUserSubset

/-- The country of a subset. -/
def endUserCountry? (s : EndUserSubset) : Option String := SubsetKey.valueOf? "CC" s.keys

/-- The document type of a subset, without its scheme. -/
def documentType? (s : EndUserSubset) : Option String := SubsetKey.valueOf? "DT" s.keys

/-- The process of a subset, without its scheme. -/
def process? (s : EndUserSubset) : Option String := SubsetKey.valueOf? "PR" s.keys

/-- The direction of a subset. -/
def direction? (s : EndUserSubset) : Option String := SubsetKey.valueOf? "DIR" s.keys

end EndUserSubset

/-! ## 2. Figures -/

namespace Collection

/-- The total of the transaction statistics. -/
def transactionTotal (c : Collection) : IncomingOutgoing := ⟨c.totals.incoming, c.totals.outgoing⟩

/-- The groups of the transaction statistics by some dimensions. -/
def transactionSubsets (c : Collection) (dims : List Dimension) : List TransactionSubset :=
  (c.aggregate dims).map fun g =>
    ⟨subsetType dims, g.subsetKeys, g.counts.incoming, g.counts.outgoing⟩

/-- The dimensions of the end user statistics; they also fix the order of the groups. -/
def endUserDimensions : List Dimension := [.endUserCountry, .documentType, .process, .direction]

/-- The groups of the end user statistics. -/
def endUserSubsets (c : Collection) : List EndUserSubset :=
  (c.aggregate endUserDimensions).map fun g =>
    ⟨subsetType endUserDimensions, g.subsetKeys, g.counts⟩

end Collection

/-! ## 3. Reports -/

/-- The transaction statistics. -/
structure TransactionStatistics where
  customizationId : String
  profileId : String
  header : ReportHeader
  total : IncomingOutgoing
  subsets : List TransactionSubset
deriving DecidableEq, Repr

/-- The end user statistics. -/
structure EndUserStatistics where
  customizationId : String
  profileId : String
  header : ReportHeader
  fullSet : GroupCounts
  subsets : List EndUserSubset
deriving DecidableEq, Repr

/-- A report of either kind. -/
inductive Report where
  | tsr (report : TransactionStatistics)
  | eusr (report : EndUserStatistics)
deriving DecidableEq, Repr

/-! ## 4. Reports as values -/

namespace ReportHeader

/-- A header as a value. -/
def toValue (h : ReportHeader) : Value :=
  .record "ReportHeader"
    [("period", .period h.period), ("reporter_id", .text h.reporterId),
     ("reporter_id_scheme", .text h.reporterIdScheme)]

end ReportHeader

namespace IncomingOutgoing

/-- Message counts as a value. -/
def toValue (c : IncomingOutgoing) : Value :=
  .record "IncomingOutgoing" [("incoming", .int c.incoming), ("outgoing", .int c.outgoing)]

end IncomingOutgoing

namespace TransactionSubset

/-- A group of the transaction statistics as a value. -/
def toValue (s : TransactionSubset) : Value :=
  .record "TransactionSubset"
    [("type", .text s.type), ("keys", .tuple (s.keys.map (·.toValue))),
     ("incoming", .int s.incoming), ("outgoing", .int s.outgoing)]

end TransactionSubset

/-- Figures in the end user statistics as a value. -/
def GroupCounts.toEndUserCounts (c : GroupCounts) : Value :=
  .record "EndUserCounts" (Value.ofCounts c)

namespace EndUserSubset

/-- A group of the end user statistics as a value. -/
def toValue (s : EndUserSubset) : Value :=
  .record "EndUserSubset"
    [("type", .text s.type), ("keys", .tuple (s.keys.map (·.toValue))),
     ("counts", s.counts.toEndUserCounts)]

end EndUserSubset

namespace Report

/-- A report as a value. -/
def toValue : Report → Value
  | .tsr r =>
    .record "TransactionStatisticsReport"
      [("customization_id", .text r.customizationId), ("profile_id", .text r.profileId),
       ("header", r.header.toValue), ("total", r.total.toValue),
       ("subsets", .tuple (r.subsets.map (·.toValue)))]
  | .eusr r =>
    .record "EndUserStatisticsReport"
      [("customization_id", .text r.customizationId), ("profile_id", .text r.profileId),
       ("header", r.header.toValue), ("full_set", r.fullSet.toEndUserCounts),
       ("subsets", .tuple (r.subsets.map (·.toValue)))]

end Report

/-! ## 5. Reports as documents -/

theorem ReportHeader.hasDocument (h : ReportHeader) : h.toValue.HasDocument := by
  refine .record ?_
  simp only [List.forall_mem_cons]
  exact ⟨⟨_, rfl⟩, ⟨_, rfl⟩, ⟨_, rfl⟩, List.forall_mem_nil _⟩

theorem TransactionSubset.hasDocument (s : TransactionSubset) : s.toValue.HasDocument := by
  refine .record ?_
  simp only [List.forall_mem_cons]
  exact ⟨⟨_, rfl⟩, SubsetKey.hasDocument_tuple s.keys, ⟨_, rfl⟩, ⟨_, rfl⟩, List.forall_mem_nil _⟩

theorem EndUserSubset.hasDocument (s : EndUserSubset) : s.toValue.HasDocument := by
  refine .record ?_
  simp only [List.forall_mem_cons]
  exact ⟨⟨_, rfl⟩, SubsetKey.hasDocument_tuple s.keys, ⟨_, rfl⟩, List.forall_mem_nil _⟩

namespace Report

/-- The only keys of a report are the names of its fields, so that nothing stops its rendering. -/
theorem hasDocument (r : Report) : r.toValue.HasDocument := by
  cases r with
  | tsr r =>
    refine .record ?_
    simp only [List.forall_mem_cons]
    refine ⟨⟨_, rfl⟩, ⟨_, rfl⟩, r.header.hasDocument, ⟨_, rfl⟩, .tuple fun v hv => ?_,
      List.forall_mem_nil _⟩
    obtain ⟨s, _, rfl⟩ := List.mem_map.mp hv
    exact s.hasDocument
  | eusr r =>
    refine .record ?_
    simp only [List.forall_mem_cons]
    refine ⟨⟨_, rfl⟩, ⟨_, rfl⟩, r.header.hasDocument, ⟨_, rfl⟩, .tuple fun v hv => ?_,
      List.forall_mem_nil _⟩
    obtain ⟨s, _, rfl⟩ := List.mem_map.mp hv
    exact s.hasDocument

/-- A report as a document. -/
def render (r : Report) : Document :=
  match h : r.toValue.render with
  | .ok d => d
  | .error _ => False.elim <| by
    obtain ⟨d, hd⟩ := r.hasDocument
    rw [hd] at h
    cases h

end Report

end PeppolStatistics
