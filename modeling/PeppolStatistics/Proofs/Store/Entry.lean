import PeppolStatistics.Proofs.Store.Record
import PeppolStatistics.Store.Items

/-!
# Entries of the store

An `Entry` is what the store keeps of one call: an item that can be stored, with the service
provider it was recorded for. A table of items holds the records of some entries, each in a row
with an identifier (`Entry.tableOf`), and what a query finds in it is a function of these rows
(`Entry.found`).

* `Entry.recordsOf_items`: the records of some items are those of their entries, or there is an
  overflow;
* `Entry.filter_belongs`, `Entry.mapM_toItem`: a query on the table is one on the entries;
* `Entry.mergeSort_filter_belongs`: the order of the rows is that of the instants, then of the
  identifiers;
* `Entry.perm_found`, `Entry.pairwise_found`: a query finds the wanted entries, by their instants.
-/

namespace PeppolStatistics

/-! ## 1. Entries and their records -/

/-- An item that can be stored, with the service provider it was recorded for. -/
structure Entry where
  item : Item
  provider : Option String
  inCalendar : DateTime.InCalendar item.exchangedAt.instant

namespace Entry

/-- The entry of an item, if its instant lies within the calendar. -/
def make (item : Item) (provider : Option String) : Except Failure Entry :=
  if h : DateTime.InCalendar item.exchangedAt.instant then .ok ⟨item, provider, h⟩
  else .error .overflow

/-- The entries of some items for one service provider. -/
def ofItems (items : List Item) (provider : Option String) : Except Failure (List Entry) :=
  items.mapM (make · provider)

/-- The entries that a call adds: none if it fails. -/
def added (r : Except Failure (List Entry)) : List Entry := r.toOption.getD []

@[simp] theorem added_ok (es : List Entry) : added (.ok es) = es := rfl

@[simp] theorem added_error (e : Failure) : added (.error e) = [] := rfl

/-- The clock of universal time at an entry. -/
def clock (e : Entry) : Date × TimeOfDay :=
  (StoredRecord.utcClockOf e.item).get
    (Option.isSome_iff_exists.mpr (StoredRecord.exists_utcClockOf e.inCalendar))

/-- The record of an entry, with or without an offset. -/
def recordWith (e : Entry) (offset : Option UtcOffset) : StoredRecord :=
  StoredRecord.ofClock e.item e.provider e.clock offset

/-- The record that the table keeps of an entry. -/
def record (e : Entry) : StoredRecord := e.recordWith none

/-- The table that holds some entries in its rows. -/
def tableOf (rows : List (Row Entry)) : ItemTable := .rows (rows.map (·.map record))

theorem utcClockOf_item (e : Entry) : StoredRecord.utcClockOf e.item = some e.clock :=
  (Option.some_get _).symm

/-- The record that is made of an item is that of its entry. -/
theorem ofItem_make (i : Item) (provider : Option String) :
    StoredRecord.ofItem i provider = (make i provider).map (·.recordWith (some .utc)) := by
  by_cases h : DateTime.InCalendar i.exchangedAt.instant
  · rw [make, dif_pos h]
    exact StoredRecord.ofItem_eq_ok (utcClockOf_item ⟨i, provider, h⟩) provider
  · rw [make, dif_neg h]
    exact StoredRecord.ofItem_eq_error (StoredRecord.utcClockOf_eq_none_iff.mpr h) provider

/-- **The records of some items are those of their entries**, whatever their numbers. -/
theorem recordsOf_items (provider : Option String) (items : List Item) (index : Nat) :
    ItemStore.recordsOf provider index (items.map .item) =
      (ofItems items provider).map (·.map (·.recordWith (some .utc))) := by
  induction items generalizing index with
  | nil => rfl
  | cons i is ih =>
    rw [ofItems, List.mapM_cons, List.map_cons, ItemStore.recordsOf, ofItem_make, ih]
    cases make i provider with
    | error _ => rfl
    | ok e =>
      rw [ofItems]
      cases is.mapM (make · provider) with
      | error _ => rfl
      | ok es => rfl

theorem mapM_asStored (entries : List Entry) :
    (entries.map (·.recordWith (some .utc))).mapM (·.asStored) =
      (.ok (entries.map record) : Except Failure (List StoredRecord)) := by
  refine mapM_eq_ok_iff.mpr ?_
  rw [List.forall₂_map_left_iff, List.forall₂_map_right_iff, List.forall₂_same]
  intro e _
  exact StoredRecord.asStored_ofClock e.item e.provider e.clock (some .utc)

theorem isTimed_records (entries : List Entry) :
    (entries.map (·.recordWith (some .utc))).all (·.isTimed) = true := by
  rw [List.all_map, List.all_eq_true]
  intro e _
  exact StoredRecord.isTimed_ofClock e.item e.provider e.clock (some .utc)

/-- **The record of an entry gives back its item.** -/
theorem toItem_record (e : Entry) : e.record.toItem = .ok e.item :=
  StoredRecord.toItem_ofClock e.utcClockOf_item e.provider (.inl rfl)

theorem mapM_toItem (rows : List (Row Entry)) :
    (rows.map (·.map record)).mapM (·.content.toItem) =
      (.ok (rows.map (·.content.item)) : Except Failure (List Item)) := by
  refine mapM_eq_ok_iff.mpr ?_
  rw [List.forall₂_map_left_iff, List.forall₂_map_right_iff, List.forall₂_same]
  intro r _
  exact r.content.toItem_record

/-! ## 2. Queries -/

/-- Whether a period and perhaps a service provider ask for an entry: the own date of its item
    lies in the period, and it was recorded for this provider. -/
def Wanted (p : ReportPeriod) (asked : Option String) (e : Entry) : Prop :=
  (p.first ≤ e.item.date ∧ e.item.date ≤ p.last) ∧ (asked = none ∨ e.provider = asked)

instance (p : ReportPeriod) (asked : Option String) (e : Entry) : Decidable (e.Wanted p asked) :=
  inferInstanceAs (Decidable (_ ∧ _))

/-- Whether the row of an entry comes before another one: by the instant, then by the
    identifier. -/
def rowLe (a b : Row Entry) : Bool :=
  a.content.item.exchangedAt.instant < b.content.item.exchangedAt.instant ||
    (a.content.item.exchangedAt.instant == b.content.item.exchangedAt.instant && a.id ≤ b.id)

theorem rowLe_iff {a b : Row Entry} :
    rowLe a b = true ↔
      a.content.item.exchangedAt.instant < b.content.item.exchangedAt.instant ∨
      a.content.item.exchangedAt.instant = b.content.item.exchangedAt.instant ∧ a.id ≤ b.id := by
  simp [rowLe]

theorem rowLe_trans {a b c : Row Entry} (hab : rowLe a b = true) (hbc : rowLe b c = true) :
    rowLe a c = true := by
  rw [rowLe_iff] at hab hbc ⊢
  rcases hab with hab | ⟨hab, hab'⟩
  · rcases hbc with hbc | ⟨hbc, _⟩
    · exact .inl (Int.lt_trans hab hbc)
    · exact .inl (by omega)
  · rcases hbc with hbc | ⟨hbc, hbc'⟩
    · exact .inl (by omega)
    · exact .inr ⟨hab.trans hbc, String.le_trans hab' hbc'⟩

theorem rowLe_total (a b : Row Entry) : (rowLe a b || rowLe b a) = true := by
  rw [Bool.or_eq_true, rowLe_iff, rowLe_iff]
  by_cases h : a.content.item.exchangedAt.instant = b.content.item.exchangedAt.instant
  · rcases String.le_total a.id b.id with hid | hid
    · exact .inl (.inr ⟨h, hid⟩)
    · exact .inr (.inr ⟨h.symm, hid⟩)
  · rcases Int.lt_or_gt_of_ne h with hlt | hlt
    · exact .inl (.inl hlt)
    · exact .inr (.inl hlt)

/-- The rows of the wanted entries among some, in their order. -/
def selected (rows : List (Row Entry)) (p : ReportPeriod) (asked : Option String) :
    List (Row Entry) :=
  (rows.filter (·.content.Wanted p asked)).mergeSort rowLe

/-- The items that a query finds in some rows, in order. -/
def found (rows : List (Row Entry)) (p : ReportPeriod) (asked : Option String) : List Item :=
  (selected rows p asked).map (·.content.item)

theorem belongs_record (p : ReportPeriod) (asked : Option String) (e : Entry) :
    e.record.belongs p asked = decide (e.Wanted p asked) := by
  rw [record, recordWith, StoredRecord.belongs_ofClock, Bool.eq_iff_iff, decide_eq_true_iff]
  simp [Wanted, ReportPeriod.contains]

/-- The rows that a query selects are those of the wanted entries. -/
theorem filter_belongs (p : ReportPeriod) (asked : Option String) (rows : List (Row Entry)) :
    (rows.map (·.map record)).filter (·.content.belongs p asked) =
      (rows.filter (·.content.Wanted p asked)).map (·.map record) := by
  rw [List.filter_map]
  refine congrArg (List.map _) (List.filter_congr fun r _ => ?_)
  exact belongs_record p asked r.content

theorem clockOrder_record (e : Entry) : e.record.clockOrder = e.item.exchangedAt.instant :=
  StoredRecord.clockOrder_ofClock e.utcClockOf_item e.provider none

/-- **The order of the rows** is that of the instants, then of the identifiers. -/
theorem rowLe_record (a b : Row Entry) :
    ItemStore.rowLe (a.map record) (b.map record) = rowLe a b := by
  have hid : decide ((a.map record).id ≤ (b.map record).id) = decide (a.id ≤ b.id) := rfl
  rw [ItemStore.rowLe, rowLe, Row.content_map, Row.content_map, clockOrder_record,
    clockOrder_record, hid]

/-- The records of a table are sorted as their entries are. -/
theorem mergeSort_filter_belongs (p : ReportPeriod) (asked : Option String)
    (rows : List (Row Entry)) :
    ((rows.map (·.map record)).filter (·.content.belongs p asked)).mergeSort ItemStore.rowLe =
      (selected rows p asked).map (·.map record) := by
  rw [filter_belongs, selected]
  exact (List.map_mergeSort fun a _ b _ => (rowLe_record a b).symm).symm

/-- **A query finds the items of the wanted entries**, each as often as it was written. -/
theorem perm_found (rows : List (Row Entry)) (p : ReportPeriod) (asked : Option String) :
    (found rows p asked).Perm
      (((rows.map (·.content)).filter (·.Wanted p asked)).map (·.item)) := by
  have hcontents : (rows.map (·.content)).filter (·.Wanted p asked) =
      (rows.filter (·.content.Wanted p asked)).map (·.content) := List.filter_map
  rw [hcontents, List.map_map]
  exact (List.mergeSort_perm _ _).map _

/-- **What a query finds is ordered by the instants.** -/
theorem pairwise_found (rows : List (Row Entry)) (p : ReportPeriod) (asked : Option String) :
    (found rows p asked).Pairwise fun a b =>
      a.exchangedAt.instant ≤ b.exchangedAt.instant := by
  have hsorted : (selected rows p asked).Pairwise fun a b => rowLe a b = true := by
    refine List.pairwise_mergeSort ?_ rowLe_total _
    intro a b c
    exact rowLe_trans
  rw [found, List.pairwise_map]
  refine hsorted.imp fun {a b} hab => ?_
  rcases rowLe_iff.mp hab with hlt | ⟨heq, _⟩
  · exact Int.le_of_lt hlt
  · exact Int.le_of_eq heq

theorem length_found (rows : List (Row Entry)) (p : ReportPeriod) (asked : Option String) :
    (found rows p asked).length = (rows.filter (·.content.Wanted p asked)).length :=
  (List.length_map _).trans (List.mergeSort_perm _ _).length_eq

end Entry

end PeppolStatistics
