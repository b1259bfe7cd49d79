import PeppolStatistics.Proofs.Store.Session

/-!
# Batches

A batch of values is stored as a whole or not at all, in any session: also in one that keeps other
records, or whose writing has failed.

* `ItemStore.recordsOf_cases`: a batch has records for all of its values, or it is refused for the
  first value that cannot be stored;
* `SessionWork.read_flush_keeping`: what is read after a flush that succeeds is what was read
  before, and the new records;
* `ShowsMore`, `ShowsMore.of_read`: how the queries of a session see some entries more, which
  what is read decides;
* `ItemStore.storeAll_all_or_nothing`: a refused batch changes nothing; any other one is stored
  and seen if the flush succeeds.
-/

namespace PeppolStatistics

/-! ## 1. Values that can be stored -/

/-- A value that can be stored: an item whose instant lies within the calendar. -/
def Value.Storable (v : Value) : Prop :=
  ∃ i, v = .item i ∧ DateTime.InCalendar i.exchangedAt.instant

namespace ItemStore

/-- The failure with which a value is refused at a place of a batch: an item has no universal
    time, and any other value is no item. -/
def refusal (place : Nat) : Value → Failure
  | .item _ => .overflow
  | _ => .invalid ("items[" ++ toString place ++ "]") .itemExpected

/-- A value that cannot be stored ends a batch. -/
theorem recordsOf_of_refused {v : Value} (hv : ¬ v.Storable) (provider : Option String)
    (index : Nat) (vs : List Value) :
    recordsOf provider index (v :: vs) = .error (refusal index v) := by
  cases v with
  | item i =>
    have hout : ¬ DateTime.InCalendar i.exchangedAt.instant := fun hin => hv ⟨i, rfl, hin⟩
    rw [recordsOf, StoredRecord.ofItem_eq_error (StoredRecord.utcClockOf_eq_none_iff.mpr hout)]
    rfl
  | _ => rfl

/-- The record of an entry comes before those of the rest of a batch. -/
theorem recordsOf_entry (e : Entry) (index : Nat) (vs : List Value) :
    recordsOf e.provider index (.item e.item :: vs) =
      (recordsOf e.provider (index + 1) vs).map (e.recordWith (some .utc) :: ·) := by
  rw [recordsOf, StoredRecord.ofItem_eq_ok e.utcClockOf_item, ok_bind]
  cases recordsOf e.provider (index + 1) vs with
  | error e => rfl
  | ok records => rfl

/-- **The records of a batch**: those of its entries, or the refusal of the first value that
    cannot be stored, with its place in the batch. -/
theorem recordsOf_cases (provider : Option String) (values : List Value) (index : Nat) :
    (∃ new : List Entry, values = new.map (fun e => .item e.item) ∧
      (∀ e ∈ new, e.provider = provider) ∧
      recordsOf provider index values = .ok (new.map (·.recordWith (some .utc)))) ∨
    ∃ before refused after, values = before ++ refused :: after ∧
      (∀ v ∈ before, v.Storable) ∧ ¬ refused.Storable ∧
      recordsOf provider index values = .error (refusal (index + before.length) refused) := by
  induction values generalizing index with
  | nil => exact .inl ⟨[], rfl, fun _ he => absurd he List.not_mem_nil, rfl⟩
  | cons v vs ih =>
    by_cases hv : v.Storable
    · obtain ⟨i, rfl, hin⟩ := hv
      let e : Entry := ⟨i, provider, hin⟩
      have hrecords := recordsOf_entry e index vs
      rcases ih (index + 1) with ⟨new, hvs, hprovider, hrest⟩ |
        ⟨before, refused, after, hvs, hbefore, hrefused, hrest⟩
      · refine .inl ⟨e :: new, congrArg (_ :: ·) hvs, ?_, ?_⟩
        · intro e' he'
          rcases List.mem_cons.mp he' with rfl | he'
          · rfl
          · exact hprovider e' he'
        · exact hrecords.trans (by rw [hrest]; rfl)
      · refine .inr ⟨.item i :: before, refused, after, congrArg (_ :: ·) hvs, ?_, hrefused, ?_⟩
        · intro w hw
          rcases List.mem_cons.mp hw with rfl | hw
          · exact ⟨i, rfl, hin⟩
          · exact hbefore w hw
        · have hplace : index + 1 + before.length = index + (before.length + 1) := by omega
          refine hrecords.trans ?_
          rw [hrest, hplace]
          rfl
    · exact .inr ⟨[], v, vs, rfl, fun _ hw => absurd hw List.not_mem_nil, hv,
        recordsOf_of_refused hv provider index vs⟩

end ItemStore

/-! ## 2. Writing and reading -/

namespace SessionState

/-- The session with some more records to be written. -/
def keeping (s : SessionState) (records : List StoredRecord) : SessionState :=
  { s with session := { s.session with pending := s.session.pending ++ records } }

theorem keeping_nil (s : SessionState) : s.keeping [] = s := by
  rw [keeping, List.append_nil]

end SessionState

theorem ItemTable.rows?_eq_ok_iff {t : ItemTable} {rows : List (Row StoredRecord)} :
    t.rows? = .ok rows ↔ t = .rows rows := by
  cases t with
  | rows rows' =>
    rw [ItemTable.rows?, Except.ok.injEq, ItemTable.rows.injEq]
  | _ => exact ⟨(nomatch ·), (nomatch ·)⟩

namespace SessionWork

variable {s s' : SessionState} {c c' : Connection}

/-- **What is written**: all records are looked at, and then stand in new rows behind those of the
    table. -/
theorem write_eq_ok_iff {rs : List StoredRecord} :
    write c rs = .ok c' ↔
      rs.all (·.isTimed) = true ∧ ∃ present stored, c.current = .rows present ∧
        rs.mapM (·.asStored) = (.ok stored : Except Failure (List StoredRecord)) ∧
        c' = { c with
          current := .rows (present ++ Row.numbered c.ids stored)
          ids := fun n => c.ids (n + stored.length) } := by
  unfold write
  by_cases htimed : rs.all (·.isTimed) = true
  · rw [if_pos htimed, bind_eq_ok]
    constructor
    · intro ⟨present, hpresent, hrest⟩
      obtain ⟨stored, hstored, hc⟩ := bind_eq_ok.mp hrest
      exact ⟨htimed, present, stored, ItemTable.rows?_eq_ok_iff.mp hpresent, hstored,
        (Except.ok.inj hc).symm⟩
    · intro ⟨_, present, stored, hpresent, hstored, hc⟩
      refine ⟨present, ItemTable.rows?_eq_ok_iff.mpr hpresent, ?_⟩
      exact bind_eq_ok.mpr ⟨stored, hstored, congrArg Except.ok hc.symm⟩
  · rw [if_neg htimed]
    exact ⟨(nomatch ·), fun h => absurd h.1 htimed⟩

/-- A session that keeps no records has nothing to write. -/
theorem flush_of_nil (h : s.session.pending = []) : flush s = (.ok (), s) := by
  rw [flush, h]
  rfl

/-- A flush that succeeds had nothing to write, or it has written everything. -/
theorem flush_cases (h : flush s = (.ok (), s')) :
    s.session.pending = [] ∧ s' = s ∨
    s.session.broken = false ∧ ∃ c, write s.connection s.session.pending = .ok c ∧
      s' = { s with connection := c, session := ⟨[], true, false⟩ } := by
  unfold flush at h
  split at h
  next hnone =>
    exact .inl ⟨List.isEmpty_iff.mp hnone, (Prod.mk.inj h).2.symm⟩
  next =>
    split at h
    next => cases h
    next hbroken =>
      split at h
      next c hwrite =>
        exact .inr ⟨Bool.eq_false_iff.mpr hbroken, c, hwrite, (Prod.mk.inj h).2.symm⟩
      next => cases h

/-- What is read after a flush: what the table holds, unless writing has failed before. -/
theorem fst_read (hflush : flush s = (.ok (), s')) :
    (read s).1 = if s'.session.broken then .error .pendingRollback
      else s'.connection.current.rows? := by
  rw [read, bind_of_ok hflush]
  show ((if s'.session.broken then throw .pendingRollback else _ : SessionWork _) s').1 = _
  by_cases hbroken : s'.session.broken = true
  · rw [if_pos hbroken, if_pos hbroken]
    rfl
  · rw [if_neg hbroken, if_neg hbroken]
    cases s'.connection.current.rows? with
    | error e => rfl
    | ok rs => rfl

theorem read_of_flush (hflush : flush s = (.ok (), s')) (hsound : s'.session.broken = false) :
    (read s).1 = s'.connection.current.rows? := by
  rw [fst_read hflush, if_neg (by simp [hsound])]

/-- What is read is what the table holds once everything is written. -/
theorem read_of_write (hsound : s.session.broken = false)
    (hwrite : write s.connection s.session.pending = .ok c) :
    (read s).1 = c.current.rows? := by
  by_cases hnone : s.session.pending = []
  · -- nothing is written, but what is written stands in the table all the same
    rw [hnone, write_eq_ok_iff] at hwrite
    obtain ⟨_, present, stored, hpresent, hstored, hc⟩ := hwrite
    have hnil : [] = stored := Except.ok.inj hstored
    rw [read_of_flush (flush_of_nil hnone) hsound, hpresent, hc, ← hnil, Row.numbered,
      List.append_nil]
  · have hflush : flush s =
        (.ok (), { s with connection := c, session := ⟨[], true, false⟩ }) := by
      rw [flush, if_neg (by simpa using hnone), if_neg (by simp [hsound]), hwrite]
    exact read_of_flush hflush rfl

theorem flush_withTrace (s : SessionState) (trace : Trace) :
    flush { s with trace } = ((flush s).1, { (flush s).2 with trace }) := by
  unfold flush
  split
  next => rfl
  next =>
    split
    next => rfl
    next => cases write s.connection s.session.pending <;> rfl

/-- What is logged does not change what is read. -/
theorem read_withTrace (s : SessionState) (trace : Trace) :
    (read { s with trace }).1 = (read s).1 := by
  have hlogged := flush_withTrace s trace
  cases hflush : flush s with
  | mk r s' =>
    rw [hflush] at hlogged
    cases r with
    | error e => rw [read, bind_of_error hflush, bind_of_error hlogged]
    | ok _ => rw [fst_read hflush, fst_read hlogged]

/-- **After a flush that succeeds the new records are read**, in new rows behind all that was read
    before. -/
theorem read_flush_keeping {new : List Entry}
    (h : flush (s.keeping (new.map (·.recordWith (some .utc)))) = (.ok (), s')) :
    ∃ rows : List (Row Entry), rows.map (·.content) = new ∧
      (read s').1 = (read s).1.map (· ++ rows.map (·.map Entry.record)) := by
  rcases flush_cases h with ⟨hnone, hs'⟩ | ⟨hsound, c, hwrite, hs'⟩
  · -- there was nothing to write, so the batch is empty
    have hnew : new = [] := List.map_eq_nil_iff.mp (List.append_eq_nil_iff.mp hnone).2
    subst hnew
    refine ⟨[], rfl, ?_⟩
    rw [hs', List.map_nil, SessionState.keeping_nil]
    cases (read s).1 with
    | error e => rfl
    | ok rs => exact congrArg Except.ok (List.append_nil rs).symm
  · obtain ⟨htimed, present, stored, hpresent, hstored, hc⟩ := write_eq_ok_iff.mp hwrite
    have hpending : (s.keeping (new.map (·.recordWith (some .utc)))).session.pending =
        s.session.pending ++ new.map (·.recordWith (some .utc)) := rfl
    rw [hpending, List.all_append, Bool.and_eq_true] at htimed
    rw [hpending, List.mapM_append] at hstored
    obtain ⟨kept, hkept, hrest⟩ := bind_eq_ok.mp hstored
    rw [Entry.mapM_asStored, ok_bind] at hrest
    have hstored : kept ++ new.map Entry.record = stored := Except.ok.inj hrest
    have hread : (read s).1 = .ok (present ++ Row.numbered s.connection.ids kept) :=
      read_of_write (s := s) hsound
        (write_eq_ok_iff.mpr ⟨htimed.1, present, kept, hpresent, hkept, rfl⟩)
    -- the new rows are given the identifiers behind those of the records kept before
    let ids := fun n => s.connection.ids (n + kept.length)
    refine ⟨Row.numbered ids new, Row.content_numbered ids new, ?_⟩
    rw [hread, hs', read_of_flush (flush_of_nil rfl) rfl, hc, ← hstored]
    show Except.ok (present ++ Row.numbered s.connection.ids (kept ++ new.map Entry.record)) =
      Except.ok (present ++ Row.numbered s.connection.ids kept ++ _)
    rw [Row.numbered_append, Row.numbered_map, List.append_assoc]

end SessionWork

/-! ## 3. What queries see -/

section Queries

variable {α β : Type} {s s' : SessionState} {p : ReportPeriod} {asked : Option String}

/-- The failure with which work of the store ends if the database ends with another one. -/
def ItemStore.handedOn (operation : BackendOperation) (e : Failure) : Failure :=
  if e.isDatabase then .backend operation else e

theorem fst_asBackend (operation : BackendOperation) (work : SessionWork α) (s : SessionState) :
    (ItemStore.asBackend operation work s).1 =
      (work s).1.mapError (ItemStore.handedOn operation) := by
  rw [ItemStore.asBackend]
  obtain ⟨r, s'⟩ := work s
  cases r with
  | error e => rfl
  | ok a => rfl

/-- Work that goes on without the session answers from the first answer alone. -/
theorem fst_bind {work : SessionWork α} {next : α → SessionWork β} (f : α → Except Failure β)
    (hnext : ∀ a s', (next a s').1 = f a) (s : SessionState) :
    ((work >>= next) s).1 = (work s).1 >>= f := by
  cases hwork : work s with
  | mk r s' =>
    cases r with
    | error e => rw [bind_of_error hwork, error_bind]
    | ok a => rw [bind_of_ok hwork, hnext, ok_bind]

theorem fst_ofExcept (r : Except Failure α) (s : SessionState) :
    (SessionWork.ofExcept r s).1 = r := by
  cases r with
  | error e => rfl
  | ok a => rfl

namespace ItemStore

/-- The number that a query makes of the rows that it reads. -/
def countIn (p : ReportPeriod) (asked : Option String) (rows : List (Row StoredRecord)) : Nat :=
  (rows.filter fun r => r.content.belongs p asked).length

/-- The rows that a query selects among those that it reads. -/
def selectedIn (p : ReportPeriod) (asked : Option String) (rows : List (Row StoredRecord)) :
    List (Row StoredRecord) :=
  (rows.filter fun r => r.content.belongs p asked).mergeSort rowLe

/-- The items that a query makes of the rows that it reads. -/
def itemsIn (p : ReportPeriod) (asked : Option String) (rows : List (Row StoredRecord)) :
    Except Failure (List Item) :=
  (selectedIn p asked rows).mapM fun r => r.content.toItem

theorem fst_count (p : ReportPeriod) (asked : Option String) (s : SessionState) :
    (count p asked s).1 =
      ((SessionWork.read s).1 >>= fun rs => .ok (countIn p asked rs)).mapError
        (handedOn .count) := by
  rw [count, fst_asBackend]
  exact congrArg _ (fst_bind (fun rs => .ok (countIn p asked rs)) (fun _ _ => rfl) s)

theorem fst_select (p : ReportPeriod) (asked : Option String) (s : SessionState) :
    (select p asked s).1 = (SessionWork.read s).1 >>= fun rs => .ok (selectedIn p asked rs) :=
  fst_bind (fun rs => .ok (selectedIn p asked rs)) (fun _ _ => rfl) s

theorem fst_itemsOf (p : ReportPeriod) (asked : Option String) (s : SessionState) :
    (itemsOf p asked s).1 = (SessionWork.read s).1 >>= itemsIn p asked := by
  refine (fst_bind (fun rows => rows.mapM fun r => r.content.toItem) ?_ s).trans ?_
  · intro rows s'
    exact fst_ofExcept _ s'
  · rw [fst_select]
    cases (SessionWork.read s).1 with
    | error e => rfl
    | ok rows => rfl

theorem fst_load (p : ReportPeriod) (asked : Option String) (s : SessionState) :
    (load p asked s).1 =
      ((SessionWork.read s).1 >>= itemsIn p asked).mapError (handedOn .load) := by
  rw [load, fst_asBackend, ← fst_itemsOf, fst_bind Except.ok (fun _ _ => rfl)]
  cases (itemsOf p asked s).1 with
  | error e => rfl
  | ok items => rfl

theorem countIn_append (p : ReportPeriod) (asked : Option String)
    (rs : List (Row StoredRecord)) (rows : List (Row Entry)) :
    countIn p asked (rs ++ rows.map (·.map Entry.record)) =
      countIn p asked rs + ((rows.map (·.content)).filter (·.Wanted p asked)).length := by
  rw [countIn, List.filter_append, Entry.filter_belongs, List.length_append, List.length_map,
    List.filter_map, List.length_map]
  rfl

theorem perm_selectedIn_append (p : ReportPeriod) (asked : Option String)
    (rs : List (Row StoredRecord)) (rows : List (Row Entry)) :
    (selectedIn p asked (rs ++ rows.map (·.map Entry.record))).Perm
      (selectedIn p asked rs ++
        (rows.filter (·.content.Wanted p asked)).map (·.map Entry.record)) := by
  refine (List.mergeSort_perm _ _).trans ?_
  rw [List.filter_append, Entry.filter_belongs]
  exact (List.mergeSort_perm _ _).symm.append_right _

/-- **A query makes of some entries more their wanted items more.** -/
theorem itemsIn_append {rs : List (Row StoredRecord)} {found : List Item}
    (h : itemsIn p asked rs = .ok found) (rows : List (Row Entry)) :
    ∃ found', itemsIn p asked (rs ++ rows.map (·.map Entry.record)) = .ok found' ∧
      found'.Perm (found ++ ((rows.map (·.content)).filter (·.Wanted p asked)).map (·.item)) := by
  have hboth : (selectedIn p asked rs ++ (rows.filter (·.content.Wanted p asked)).map
      (·.map Entry.record)).mapM (fun r => r.content.toItem) =
        .ok (found ++ (rows.filter (·.content.Wanted p asked)).map (·.content.item)) := by
    rw [itemsIn] at h
    rw [List.mapM_append, h, ok_bind, Entry.mapM_toItem]
    rfl
  obtain ⟨found', hfound', hperm⟩ :=
    mapM_of_perm (perm_selectedIn_append p asked rs rows) hboth
  refine ⟨found', hfound', ?_⟩
  rw [List.filter_map, List.map_map]
  exact hperm

end ItemStore

/-- A session that sees some entries more than another one. All that is read is what was read
    before and their records, and the queries answer accordingly. -/
structure ShowsMore (new : List Entry) (s s' : SessionState) : Prop where
  read : ∃ rows : List (Row Entry), rows.map (·.content) = new ∧
    (SessionWork.read s').1 = (SessionWork.read s).1.map (· ++ rows.map (·.map Entry.record))
  count : ∀ p asked, (ItemStore.count p asked s').1 =
    (ItemStore.count p asked s).1.map (· + (new.filter (·.Wanted p asked)).length)
  load : ∀ p asked found, (ItemStore.load p asked s).1 = .ok found →
    ∃ found', (ItemStore.load p asked s').1 = .ok found' ∧
      found'.Perm (found ++ (new.filter (·.Wanted p asked)).map (·.item))

/-- What is read decides on what the queries see. -/
theorem ShowsMore.of_read {rows : List (Row Entry)}
    (h : (SessionWork.read s').1 = (SessionWork.read s).1.map (· ++ rows.map (·.map Entry.record))) :
    ShowsMore (rows.map (·.content)) s s' where
  read := ⟨rows, rfl, h⟩
  count := by
    intro p asked
    rw [ItemStore.fst_count, ItemStore.fst_count, h]
    cases (SessionWork.read s).1 with
    | error e => rfl
    | ok rs => exact congrArg Except.ok (ItemStore.countIn_append p asked rs rows)
  load := by
    intro p asked found hfound
    rw [ItemStore.fst_load, mapError_eq_ok] at hfound
    obtain ⟨rs, hread, hitems⟩ := bind_eq_ok.mp hfound
    obtain ⟨found', hitems', hperm⟩ := ItemStore.itemsIn_append hitems rows
    refine ⟨found', ?_, hperm⟩
    rw [ItemStore.fst_load, mapError_eq_ok, h, hread]
    exact hitems'

/-- After a flush that succeeds the session sees the new entries, whatever is logged then. -/
theorem ShowsMore.of_flush {new : List Entry}
    (h : SessionWork.flush (s.keeping (new.map (·.recordWith (some .utc)))) = (.ok (), s'))
    (trace : Trace) : ShowsMore new s { s' with trace } := by
  obtain ⟨rows, rfl, hread⟩ := SessionWork.read_flush_keeping h
  refine ShowsMore.of_read ?_
  rw [SessionWork.read_withTrace]
  exact hread

end Queries

/-! ## 4. Batches -/

namespace ItemStore

section Batches

variable {s s₁ : SessionState} {v : Value} {values : List Value} {provider : Option String}

/-- A batch without records leaves the session alone. -/
theorem storeAll_of_refused {e : Failure} (hv : v.elements? = some values)
    (h : recordsOf provider 0 values = .error e) : storeAll v provider s = (.error e, s) := by
  rw [storeAll, hv]
  simp only [h]
  rfl

/-- A batch with records is written as the flush goes. -/
theorem storeAll_of_flushed {records : List StoredRecord} {r : Except Failure Unit}
    (hv : v.elements? = some values) (h : recordsOf provider 0 values = .ok records)
    (hflush : SessionWork.flush (s.keeping records) = (r, s₁)) :
    ∃ trace, storeAll v provider s =
      ((r.map fun _ => records.length).mapError (handedOn .store), { s₁ with trace }) := by
  rw [storeAll, hv]
  simp only [h]
  have hrecords : (SessionWork.ofExcept (.ok records) : SessionWork (List StoredRecord)) s =
      (.ok records, s) := rfl
  have hadd : SessionWork.add records s = (.ok (), s.keeping records) := rfl
  have hwritten : (do SessionWork.add records; SessionWork.flush : SessionWork Unit) s =
      (r, s₁) := (bind_of_ok hadd).trans hflush
  rw [bind_of_ok hrecords]
  cases r with
  | error e =>
    have hfailed : asBackend .store (do SessionWork.add records; SessionWork.flush) s =
        (.error (handedOn .store e), s₁) := by
      rw [asBackend, hwritten]
      rfl
    exact ⟨s₁.trace, bind_of_error hfailed⟩
  | ok _ =>
    have hstored := asBackend_of_ok .store hwritten
    exact ⟨_, (bind_of_ok hstored).trans rfl⟩

/-- **A batch is stored as a whole or not at all.** If some value cannot be stored, the call is
    refused for the first such value, and whatever work comes next goes on as if the call had not
    been made. Otherwise the values are items, all for the one service provider. If the flush
    succeeds, their number is the answer and the session sees exactly them more; if it fails, the
    call fails. -/
theorem storeAll_all_or_nothing (s : SessionState) (v : Value) (values : List Value)
    (hv : v.elements? = some values) (provider : Option String) :
    ((∃ w ∈ values, ¬ w.Storable) →
      ∃ before refused after, values = before ++ refused :: after ∧
        (∀ w ∈ before, w.Storable) ∧ ¬ refused.Storable ∧
        storeAll v provider s = (.error (refusal before.length refused), s) ∧
        ∀ {α : Type} (next : SessionWork α),
          (do let _ ← (storeAll v provider).attempt; next) s = next s) ∧
    ((∀ w ∈ values, w.Storable) →
      ∃ new : List Entry, values = new.map (fun e => .item e.item) ∧
        (∀ e ∈ new, e.provider = provider) ∧
        (∀ s₁, SessionWork.flush (s.keeping (new.map (·.recordWith (some .utc)))) = (.ok (), s₁) →
          ∃ s', storeAll v provider s = (.ok values.length, s') ∧ ShowsMore new s s') ∧
        ∀ e s₁,
          SessionWork.flush (s.keeping (new.map (·.recordWith (some .utc)))) = (.error e, s₁) →
            (storeAll v provider s).1 = .error (handedOn .store e)) := by
  rcases recordsOf_cases provider values 0 with ⟨new, hvalues, hprovider, hrecords⟩ |
    ⟨before, refused, after, hvalues, hbefore, hrefused, hrecords⟩
  · constructor
    · intro ⟨w, hw, hnot⟩
      rw [hvalues] at hw
      obtain ⟨e, _, rfl⟩ := List.mem_map.mp hw
      exact absurd ⟨e.item, rfl, e.inCalendar⟩ hnot
    · intro _
      refine ⟨new, hvalues, hprovider, ?_, ?_⟩
      · intro s₁ hflush
        obtain ⟨trace, hstored⟩ := storeAll_of_flushed hv hrecords hflush
        have hlength : values.length = (new.map (·.recordWith (some .utc))).length := by
          rw [hvalues, List.length_map, List.length_map]
        refine ⟨{ s₁ with trace }, ?_, ShowsMore.of_flush hflush trace⟩
        rw [hstored, hlength]
        rfl
      · intro e s₁ hflush
        obtain ⟨trace, hfailed⟩ := storeAll_of_flushed hv hrecords hflush
        rw [hfailed]
        rfl
  · constructor
    · intro _
      rw [Nat.zero_add] at hrecords
      have hstore := storeAll_of_refused (s := s) hv hrecords
      refine ⟨before, refused, after, hvalues, hbefore, hrefused, hstore, ?_⟩
      intro α next
      exact bind_of_ok (attempt_eq hstore)
    · intro hall
      have hmem : refused ∈ values := by
        rw [hvalues]
        exact List.mem_append_right before List.mem_cons_self
      exact absurd (hall refused hmem) hrefused

end Batches

end ItemStore

/-- Of three values the second one has no universal time: nothing is stored, although the first one
    could be. Two items that can be stored are read afterwards. -/
theorem storeAll_all_or_nothing_batches :
    let s : SessionState := ⟨.ofTable (Entry.tableOf []) toString, .new, ⟨.empty, []⟩⟩
    let ahead := StoredRecord.lastInvoice ⟨20700000000, by decide, by decide⟩ (by decide)
    let behind := StoredRecord.lastInvoice ⟨-60000000, by decide, by decide⟩ (by decide)
    ItemStore.storeAll (.list [.item ahead, .item behind, .text "x"]) (some "A") s =
        (.error .overflow, s) ∧
      ∃ s' rs, ItemStore.storeAll (.list [.item ahead, .item ahead]) (some "A") s = (.ok 2, s') ∧
        (SessionWork.read s').1 = .ok rs ∧
        rs.mapM (fun r => r.content.toItem) = .ok [ahead, ahead] := by
  intro s ahead behind
  have hahead : (Value.item ahead).Storable := ⟨ahead, rfl, by decide⟩
  have hbehind : ¬ (Value.item behind).Storable := by
    intro ⟨i, hi, hin⟩
    rw [← Value.item.inj hi] at hin
    exact absurd hin (by decide)
  constructor
  · obtain ⟨before, refused, after, hvalues, hbefore, hrefused, hstore, _⟩ :=
      (ItemStore.storeAll_all_or_nothing s (.list [.item ahead, .item behind, .text "x"]) _ rfl
        (some "A")).1 ⟨_, List.mem_cons_of_mem _ List.mem_cons_self, hbehind⟩
    -- the refused value is the second one, as the first one can be stored
    match before with
    | [] => exact absurd ((List.cons.inj hvalues).1 ▸ hahead) hrefused
    | [_] =>
      obtain ⟨_, hrest⟩ := List.cons.inj hvalues
      rw [hstore, ← (List.cons.inj hrest).1]
      rfl
    | _ :: second :: _ =>
      obtain ⟨_, hrest⟩ := List.cons.inj hvalues
      have hsecond := hbefore second (List.mem_cons_of_mem _ List.mem_cons_self)
      rw [← (List.cons.inj hrest).1] at hsecond
      exact absurd hsecond hbehind
  · obtain ⟨new, hvalues, _, hstored, _⟩ :=
      (ItemStore.storeAll_all_or_nothing s (.list [.item ahead, .item ahead]) _ rfl (some "A")).2
        (by simp [hahead])
    have hempty : s.connection.current = Entry.tableOf [] := rfl
    have hflush := add_flush_eq hempty rfl rfl new
    obtain ⟨s', hstore, hshows⟩ := hstored _ hflush
    obtain ⟨rows, hrows, hread⟩ := hshows.read
    refine ⟨s', rows.map (·.map Entry.record), hstore, hread.trans rfl, ?_⟩
    have hitems : [ahead, ahead] = new.map (·.item) := by
      refine List.map_injective_iff.mpr (fun _ _ h => Value.item.inj h) ?_
      rw [List.map_map]
      exact hvalues
    rw [Entry.mapM_toItem, hitems, ← hrows, List.map_map]
    rfl

end PeppolStatistics
