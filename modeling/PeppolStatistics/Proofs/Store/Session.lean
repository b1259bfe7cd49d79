import PeppolStatistics.Proofs.Store.Entry

/-!
# Sessions on a table of entries

What the calls of the store do in a session whose table holds the records of some entries. Such a
session (`Sees`) knows two lists of rows: those that are permanent, and those that it sees. Work in
it is described by its answer and by the two lists afterwards (`Yields`).

* `Yields.bind`: how the descriptions of single steps are put together;
* `load_yields`, `loadCollection_yields`, `count_yields`, `forEach_yields`: all queries answer
  from the same list of items and change neither list of rows;
* `storeAll_yields`: what is stored is seen at once, and nothing is permanent yet;
* `commit_yields`, `abandon_yields`: at the end what was seen becomes permanent, or what is
  permanent is seen again.
-/

namespace PeppolStatistics

/-! ## 1. Sessions and the entries they see -/

/-- A session on a table of entries. Nothing waits to be written and nothing went wrong; while the
    connection was not used, only what is permanent is seen. -/
structure Sees (permanent rows : List (Row Entry)) (s : SessionState) : Prop where
  committed : s.connection.committed = Entry.tableOf permanent
  current : s.connection.current = Entry.tableOf rows
  pending : s.session.pending = []
  sound : s.session.broken = false
  unused : ¬ s.session.began = true → rows = permanent

/-- Work that gives an answer and leaves a session on a table of entries. -/
def Yields {α : Type} (work : SessionWork α) (s : SessionState) (answer : Except Failure α)
    (permanent rows : List (Row Entry)) : Prop :=
  ∃ s', work s = (answer, s') ∧ Sees permanent rows s'

section Steps

variable {α β : Type} {permanent rows : List (Row Entry)} {s : SessionState}

/-- A new session sees what is permanent. -/
theorem sees_new (rows : List (Row Entry)) (ids : Nat → String) (trace : Trace) :
    Sees rows rows ⟨.ofTable (Entry.tableOf rows) ids, .new, trace⟩ :=
  ⟨rfl, rfl, rfl, rfl, fun _ => rfl⟩

theorem Sees.withTrace (h : Sees permanent rows s) (trace : Trace) :
    Sees permanent rows { s with trace } :=
  ⟨h.committed, h.current, h.pending, h.sound, h.unused⟩

theorem pure_yields (h : Sees permanent rows s) (a : α) :
    Yields (pure a) s (.ok a) permanent rows := ⟨s, rfl, h⟩

theorem throw_yields (h : Sees permanent rows s) (e : Failure) :
    Yields (throw e : SessionWork α) s (.error e) permanent rows := ⟨s, rfl, h⟩

theorem get_yields (h : Sees permanent rows s) :
    Yields (get : SessionWork SessionState) s (.ok s) permanent rows := ⟨s, rfl, h⟩

theorem set_yields {s' : SessionState} (h : Sees permanent rows s') :
    Yields (set s' : SessionWork Unit) s (.ok ()) permanent rows := ⟨s', rfl, h⟩

theorem ofExcept_yields (h : Sees permanent rows s) (r : Except Failure α) :
    Yields (SessionWork.ofExcept r) s r permanent rows := by
  cases r with
  | error e => exact throw_yields h e
  | ok a => exact pure_yields h a

/-- **Work that goes on after an answer.** -/
theorem Yields.bind {work : SessionWork α} {next : α → SessionWork β} {a : α}
    {r : Except Failure β} {kept seen : List (Row Entry)} (h : Yields work s (.ok a) permanent rows)
    (hnext : ∀ s', Sees permanent rows s' → Yields (next a) s' r kept seen) :
    Yields (work >>= next) s r kept seen := by
  obtain ⟨s', hwork, hs'⟩ := h
  obtain ⟨s'', hrest, hs''⟩ := hnext s' hs'
  exact ⟨s'', (bind_of_ok hwork).trans hrest, hs''⟩

/-- Work that ends with a failure. -/
theorem Yields.bind_error {work : SessionWork α} {next : α → SessionWork β} {e : Failure}
    (h : Yields work s (.error e) permanent rows) :
    Yields (work >>= next) s (.error e) permanent rows := by
  obtain ⟨s', hwork, hs'⟩ := h
  exact ⟨s', bind_of_error hwork, hs'⟩

theorem asBackend_of_ok {work : SessionWork α} {a : α} {s' : SessionState}
    (operation : BackendOperation) (h : work s = (.ok a, s')) :
    ItemStore.asBackend operation work s = (.ok a, s') := by
  rw [ItemStore.asBackend, h]

theorem Yields.asBackend {work : SessionWork α} {a : α} (operation : BackendOperation)
    (h : Yields work s (.ok a) permanent rows) :
    Yields (ItemStore.asBackend operation work) s (.ok a) permanent rows := by
  obtain ⟨s', hwork, hs'⟩ := h
  exact ⟨s', asBackend_of_ok operation hwork, hs'⟩

theorem attempt_eq {work : SessionWork α} {r : Except Failure α} {s' : SessionState}
    (h : work s = (r, s')) : work.attempt s = (.ok r, s') := by
  rw [SessionWork.attempt, h]

/-- A failure that is an answer is none of the work. -/
theorem Yields.attempt {work : SessionWork α} {r : Except Failure α}
    (h : Yields work s r permanent rows) :
    Yields work.attempt s (.ok r) permanent rows := by
  obtain ⟨s', hwork, hs'⟩ := h
  exact ⟨s', attempt_eq hwork, hs'⟩

theorem log_yields (h : Sees permanent rows s) (level : Level) (part message : String)
    (extra : List (String × Value)) (fault : Option LoggedFault) :
    Yields (SessionWork.ofTraced (Traced.log level part message extra fault)) s (.ok ())
      permanent rows :=
  ⟨_, rfl, h.withTrace _⟩

/-! ## 2. Queries -/

theorem flush_yields (h : Sees permanent rows s) :
    Yields SessionWork.flush s (.ok ()) permanent rows := by
  refine ⟨s, ?_, h⟩
  rw [SessionWork.flush, if_pos (by rw [h.pending]; rfl)]

/-- What is read are the records of the entries that are seen. -/
theorem read_yields (h : Sees permanent rows s) :
    Yields SessionWork.read s (.ok (rows.map (·.map Entry.record))) permanent rows := by
  refine (flush_yields h).bind fun s₁ h₁ => ?_
  refine (get_yields h₁).bind fun s₂ _ => ?_
  have hbegan : Sees permanent rows
      { s₁ with session := { s₁.session with began := true } } :=
    ⟨h₁.committed, h₁.current, h₁.pending, h₁.sound, fun hnew => absurd rfl hnew⟩
  dsimp only
  rw [if_neg (by rw [h₁.sound]; decide)]
  refine (set_yields hbegan).bind fun s₃ h₃ => ?_
  have hrecords : s₁.connection.current.rows? = .ok (rows.map (·.map Entry.record)) := by
    rw [h₁.current]
    rfl
  rw [hrecords]
  exact ofExcept_yields h₃ _

theorem select_yields (h : Sees permanent rows s) (p : ReportPeriod)
    (asked : Option String) :
    Yields (ItemStore.select p asked) s
      (.ok ((Entry.selected rows p asked).map (·.map Entry.record))) permanent rows := by
  refine (read_yields h).bind fun s₁ h₁ => ?_
  rw [Entry.mergeSort_filter_belongs]
  exact pure_yields h₁ _

/-- The items that a query hands on are those that it finds. -/
theorem itemsOf_yields (h : Sees permanent rows s) (p : ReportPeriod)
    (asked : Option String) :
    Yields (ItemStore.itemsOf p asked) s (.ok (Entry.found rows p asked)) permanent
      rows := by
  refine (select_yields h p asked).bind fun s₁ h₁ => ?_
  rw [Entry.mapM_toItem]
  exact ofExcept_yields h₁ _

theorem load_yields (h : Sees permanent rows s) (p : ReportPeriod) (asked : Option String) :
    Yields (ItemStore.load p asked) s (.ok (Entry.found rows p asked)) permanent rows := by
  refine Yields.asBackend .load ?_
  refine (itemsOf_yields h p asked).bind fun s₁ h₁ => ?_
  refine (log_yields h₁ _ _ _ _ _).bind fun s₂ h₂ => ?_
  exact pure_yields h₂ _

theorem loadCollection_yields (h : Sees permanent rows s) (p : ReportPeriod)
    (asked : Option String) :
    Yields (ItemStore.loadCollection p asked) s (.ok ⟨Entry.found rows p asked⟩) permanent
      rows := by
  refine (load_yields h p asked).bind fun s₁ h₁ => ?_
  refine (log_yields h₁ _ _ _ _ _).bind fun s₂ h₂ => ?_
  exact pure_yields h₂ _

theorem count_yields (h : Sees permanent rows s) (p : ReportPeriod) (asked : Option String) :
    Yields (ItemStore.count p asked) s (.ok (Entry.found rows p asked).length) permanent
      rows := by
  refine Yields.asBackend .count ?_
  refine (read_yields h).bind fun s₁ h₁ => ?_
  rw [Entry.filter_belongs, List.length_map, ← Entry.length_found]
  exact pure_yields h₁ _

/-- A consumer that is handed some items one after the other makes of them what a fold makes. -/
theorem foldl_counted {σ : Type} (consume : σ → Item → σ) (items : List Item) (n : Nat)
    (start : σ) :
    items.foldl (fun (r : Nat × σ) i => (r.1 + 1, consume r.2 i)) (n, start) =
      (n + items.length, items.foldl consume start) := by
  induction items generalizing n start with
  | nil => rfl
  | cons i is ih =>
    rw [List.foldl_cons, ih, List.foldl_cons, List.length_cons]
    exact Prod.ext (by show n + 1 + is.length = n + (is.length + 1); omega) rfl

theorem forEach_yields {σ : Type} (h : Sees permanent rows s) (p : ReportPeriod)
    (asked : Option String) (consume : σ → Item → σ) (start : σ) :
    Yields (ItemStore.forEach p asked consume start) s
      (.ok ((Entry.found rows p asked).length,
        (Entry.found rows p asked).foldl consume start)) permanent rows := by
  refine (itemsOf_yields h p asked).bind fun s₁ h₁ => ?_
  rw [foldl_counted, Nat.zero_add]
  exact pure_yields h₁ _

/-! ## 3. Writing -/

/-- The connection after new entries were written to it. -/
def Connection.writing (c : Connection) (rows : List (Row Entry)) (new : List Entry) : Connection :=
  { c with
    current := Entry.tableOf (rows ++ Row.numbered c.ids new)
    ids := fun n => c.ids (n + new.length) }

/-- A connection to which nothing is written stays as it is. -/
theorem Connection.writing_nil {c : Connection} (hc : c.current = Entry.tableOf rows) :
    c.writing rows [] = c := by
  rw [writing, Row.numbered, List.append_nil, ← hc]
  rfl

/-- The table after new entries were written to it. -/
theorem write_records {c : Connection} (hc : c.current = Entry.tableOf rows) (new : List Entry) :
    SessionWork.write c (new.map (·.recordWith (some .utc))) = .ok (c.writing rows new) := by
  have hpresent : c.current.rows? = .ok (rows.map (·.map Entry.record)) := by
    rw [hc]
    rfl
  rw [SessionWork.write, if_pos (Entry.isTimed_records new), hpresent, Entry.mapM_asStored,
    Connection.writing, Entry.tableOf, List.map_append, ← Row.numbered_map]
  have hlength : (new.map Entry.record).length = new.length := List.length_map _
  rw [← hlength]
  rfl

/-- New entries are written at once. The connection counts as used if there are any. -/
theorem add_flush_eq (hcurrent : s.connection.current = Entry.tableOf rows)
    (hpending : s.session.pending = []) (hsound : s.session.broken = false) (new : List Entry) :
    (do
        SessionWork.add (new.map (·.recordWith (some .utc)))
        SessionWork.flush : SessionWork Unit) s =
      (.ok (), { s with
        connection := s.connection.writing rows new
        session := ⟨[], s.session.began || !new.isEmpty, false⟩ }) := by
  let records := new.map (·.recordWith (some .utc))
  have hadd : SessionWork.add records s =
      (.ok (), { s with session := { s.session with pending := records } }) := by
    show (Except.ok (), { s with
      session := { s.session with pending := s.session.pending ++ records } }) = _
    rw [hpending, List.nil_append]
  refine (bind_of_ok hadd).trans ?_
  cases new with
  | nil =>
    rw [Connection.writing_nil hcurrent]
    obtain ⟨connection, ⟨pending, began, broken⟩, trace⟩ := s
    subst hpending hsound
    rw [List.isEmpty_nil, Bool.not_true, Bool.or_false]
    rfl
  | cons e es =>
    rw [SessionWork.flush, if_neg (by simp [records]), if_neg (by simp [hsound])]
    simp only [records, write_records hcurrent, List.isEmpty_cons, Bool.not_false, Bool.or_true]

/-- **Storing items**: all of them are written, or none. -/
theorem storeAll_eq (hcurrent : s.connection.current = Entry.tableOf rows)
    (hpending : s.session.pending = []) (hsound : s.session.broken = false) {v : Value}
    {items : List Item} (hv : v.elements? = some (items.map .item)) (provider : Option String) :
    ∃ trace, ItemStore.storeAll v provider s = ((Entry.ofItems items provider).map List.length,
      { connection := s.connection.writing rows (Entry.added (Entry.ofItems items provider))
        session :=
          ⟨[], s.session.began || !(Entry.added (Entry.ofItems items provider)).isEmpty, false⟩
        trace }) := by
  rw [ItemStore.storeAll, hv]
  simp only [Entry.recordsOf_items]
  cases Entry.ofItems items provider with
  | error e =>
    have hfailed : (SessionWork.ofExcept (.error e) : SessionWork (List StoredRecord)) s =
        (.error e, s) := rfl
    refine ⟨s.trace, (bind_of_error hfailed).trans ?_⟩
    rw [Entry.added_error, Connection.writing_nil hcurrent]
    obtain ⟨connection, ⟨pending, began, broken⟩, trace⟩ := s
    subst hpending hsound
    rw [List.isEmpty_nil, Bool.not_true, Bool.or_false]
    rfl
  | ok new =>
    have hwrite := add_flush_eq hcurrent hpending hsound new
    have hstore := asBackend_of_ok .store hwrite
    have hlength : (new.map (·.recordWith (some .utc))).length = new.length := List.length_map _
    show ∃ trace, _ = (Except.ok new.length, _)
    rw [← hlength]
    have hrecords : (SessionWork.ofExcept (.ok (new.map (·.recordWith (some .utc)))) :
        SessionWork (List StoredRecord)) s = (.ok _, s) := rfl
    exact ⟨_, (bind_of_ok hrecords).trans ((bind_of_ok hstore).trans rfl)⟩

/-- **What is stored is seen**, in new rows, and nothing is permanent yet. -/
theorem storeAll_yields (h : Sees permanent rows s) {v : Value} {items : List Item}
    (hv : v.elements? = some (items.map .item)) (provider : Option String) :
    ∃ new : List (Row Entry),
      new.map (·.content) = Entry.added (Entry.ofItems items provider) ∧
      Yields (ItemStore.storeAll v provider) s ((Entry.ofItems items provider).map List.length)
        permanent (rows ++ new) := by
  obtain ⟨trace, hstore⟩ := storeAll_eq h.current h.pending h.sound hv provider
  refine ⟨Row.numbered s.connection.ids (Entry.added (Entry.ofItems items provider)),
    Row.content_numbered _ _, _, hstore, ⟨h.committed, rfl, rfl, rfl, fun hnew => ?_⟩⟩
  -- an unused connection means that nothing was written, now or before
  obtain ⟨hbegan, hnone⟩ : ¬ s.session.began = true ∧
      Entry.added (Entry.ofItems items provider) = [] := by
    simpa using hnew
  rw [hnone, Row.numbered, List.append_nil, h.unused hbegan]

/-! ## 4. The end of a session -/

/-- **A commit makes permanent what is seen.** -/
theorem commit_yields (h : Sees permanent rows s) :
    Yields SessionWork.commit s (.ok ()) rows rows := by
  refine (flush_yields h).bind fun s₁ h₁ => ?_
  refine (get_yields h₁).bind fun s₂ h₂ => ?_
  dsimp only
  rw [if_neg (by rw [h₁.sound]; decide)]
  by_cases hbegan : s₁.session.began = true
  · rw [if_pos hbegan]
    exact set_yields ⟨h₁.current, h₁.current, rfl, rfl, fun _ => rfl⟩
  · -- the connection was not used, so nothing but what is permanent was ever seen
    rw [if_neg hbegan]
    rw [← h₁.unused hbegan] at h₂
    exact pure_yields h₂ ()

/-- A rollback leads back to what is permanent. -/
theorem rollback_yields (h : Sees permanent rows s) :
    Yields SessionWork.rollback s (.ok ()) permanent permanent := by
  refine ⟨_, rfl, ⟨?_, ?_, rfl, rfl, fun _ => rfl⟩⟩
  all_goals dsimp only
  · split
    · exact h.committed
    · exact h.committed
  · split
    · exact h.committed
    · rename_i hbegan
      exact h.current.trans (congrArg Entry.tableOf (h.unused hbegan))

/-- **After a failure only what is permanent is seen.** -/
theorem abandon_yields (h : Sees permanent rows s) (e : Failure) :
    Yields (SessionWork.abandon e) s (.ok ()) permanent permanent :=
  (rollback_yields h).bind fun _ h₁ => log_yields h₁ _ _ _ _ _

/-- A session that sees what is permanent is on a connection without open work. -/
theorem Sees.connection_eq (h : Sees rows rows s) :
    s.connection = .ofTable (Entry.tableOf rows) s.connection.ids := by
  obtain ⟨⟨committed, current, ids⟩, session, trace⟩ := s
  obtain ⟨hcommitted, hcurrent, _, _, _⟩ := h
  subst hcommitted hcurrent
  rfl

end Steps

end PeppolStatistics
