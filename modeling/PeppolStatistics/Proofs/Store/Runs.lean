import PeppolStatistics.Proofs.Store.Block
import PeppolStatistics.Proofs.Store.Host
import PeppolStatistics.Proofs.Store.Session

/-!
# Runs of the store

Blocks of calls run one after the other against one store, each in a session of its own that is
committed if the block ends normally and rolled back if it fails. A block may write and query in
any order, may catch the failure of a call and go on, and may fail by itself.

* `Block.writes`: what a block adds to the store, or the failure that ends it; this is read off
  the block alone;
* `runSteps_yields`: the steps of a block, by induction on them;
* `scope_block`: one block; a block that fails leaves the store as it was;
* `runBlocks_blocks`, `runBlocks_queries`: blocks one after the other, by induction on them, with
  the entries of the store as the invariant;
* `StoreHost.createTables_of_content`: how one comes to a store whose table holds some entries;
* `StoreHost.queries_after_blocks`: every later query answers from exactly the entries of the
  blocks that ended normally.
-/

namespace PeppolStatistics

/-! ## 1. Calls -/

/-- A query on the store. Streamed items go to a consumer with a state. -/
inductive StoreQuery (σ : Type) where
  | load (p : ReportPeriod) (asked : Option String)
  | loadCollection (p : ReportPeriod) (asked : Option String)
  | count (p : ReportPeriod) (asked : Option String)
  | forEach (p : ReportPeriod) (asked : Option String) (consume : σ → Item → σ) (start : σ)

/-- The answer to a query. -/
inductive QueryAnswer (σ : Type) where
  | items (items : List Item)
  | collection (c : Collection)
  | number (n : Nat)
  /-- How many items were streamed, and what the consumer made of them. -/
  | streamed (n : Nat) (result : σ)

/-- A call of the store. -/
inductive StoreCall (σ : Type) where
  | store (item : Item) (provider : Option String)
  | storeAll (items : List Item) (provider : Option String)
  | query (q : StoreQuery σ)

/-- One step of a block: a call, a call whose failure is caught, or a failure of the block. -/
inductive BlockStep (σ : Type) where
  | call (c : StoreCall σ)
  | attempt (c : StoreCall σ)
  | raise (e : Failure)

/-- The steps of a block. -/
abbrev Block (σ : Type) := List (BlockStep σ)

variable {σ α : Type} {permanent rows : List (Row Entry)} {s : SessionState}

namespace StoreQuery

/-- Asks a query. -/
def run : StoreQuery σ → SessionWork (QueryAnswer σ)
  | .load p asked => do return .items (← ItemStore.load p asked)
  | .loadCollection p asked => do return .collection (← ItemStore.loadCollection p asked)
  | .count p asked => do return .number (← ItemStore.count p asked)
  | .forEach p asked consume start => do
    let (n, result) ← ItemStore.forEach p asked consume start
    return .streamed n result

/-- The answer to a query from the items that are found for a period and a service provider. -/
def answer (found : ReportPeriod → Option String → List Item) : StoreQuery σ → QueryAnswer σ
  | .load p asked => .items (found p asked)
  | .loadCollection p asked => .collection ⟨found p asked⟩
  | .count p asked => .number (found p asked).length
  | .forEach p asked consume start =>
    .streamed (found p asked).length ((found p asked).foldl consume start)

/-- **A query answers from the rows that are seen**, and changes nothing. -/
theorem run_yields (h : Sees permanent rows s) (q : StoreQuery σ) :
    Yields q.run s (.ok (q.answer (Entry.found rows))) permanent rows := by
  cases q with
  | load p asked => exact (load_yields h p asked).bind fun _ h₁ => pure_yields h₁ _
  | loadCollection p asked =>
    exact (loadCollection_yields h p asked).bind fun _ h₁ => pure_yields h₁ _
  | count p asked => exact (count_yields h p asked).bind fun _ h₁ => pure_yields h₁ _
  | forEach p asked consume start =>
    exact (forEach_yields h p asked consume start).bind fun _ h₁ => pure_yields h₁ _

end StoreQuery

namespace StoreCall

/-- Makes a call. -/
def run : StoreCall σ → SessionWork Unit
  | .store item provider => ItemStore.store (.item item) provider
  | .storeAll items provider => do
    let _ ← ItemStore.storeAll (.list (items.map .item)) provider
  | .query q => do let _ ← q.run

/-- What a call adds to the store, or the failure that ends it. -/
def writes : StoreCall σ → Except Failure (List Entry)
  | .store item provider => Entry.ofItems [item] provider
  | .storeAll items provider => Entry.ofItems items provider
  | .query _ => .ok []

end StoreCall

namespace BlockStep

/-- Makes a step. -/
def run : BlockStep σ → SessionWork Unit
  | .call c => c.run
  | .attempt c => do let _ ← c.run.attempt
  | .raise e => throw e

/-- What a step adds to the store, or the failure that ends the block. -/
def writes : BlockStep σ → Except Failure (List Entry)
  | .call c => c.writes
  | .attempt c => .ok (Entry.added c.writes)
  | .raise e => .error e

end BlockStep

/-- Work that answers nothing and has added rows for some entries, unless it failed. -/
def Adds (work : SessionWork Unit) (s : SessionState) (r : Except Failure (List Entry))
    (permanent rows : List (Row Entry)) : Prop :=
  ∃ new : List (Row Entry), new.map (·.content) = Entry.added r ∧
    Yields work s (r.map fun _ => ()) permanent (rows ++ new)

/-- Work that adds nothing. -/
theorem Adds.of_yields {work : SessionWork Unit} {r : Except Failure (List Entry)}
    (hnone : Entry.added r = []) (h : Yields work s (r.map fun _ => ()) permanent rows) :
    Adds work s r permanent rows :=
  ⟨[], hnone.symm, (List.append_nil rows).symm ▸ h⟩

theorem storeAll_adds (h : Sees permanent rows s) {v : Value} {items : List Item}
    (hv : v.elements? = some (items.map .item)) (provider : Option String) :
    Adds (do let _ ← ItemStore.storeAll v provider) s (Entry.ofItems items provider) permanent
      rows := by
  obtain ⟨new, hnew, hstored⟩ := storeAll_yields h hv provider
  refine ⟨new, hnew, ?_⟩
  cases hr : Entry.ofItems items provider with
  | error e =>
    rw [hr] at hstored
    exact hstored.bind_error
  | ok es =>
    rw [hr] at hstored
    exact hstored.bind fun _ h₁ => pure_yields h₁ ()

/-- **A call adds what it writes.** -/
theorem StoreCall.run_adds (h : Sees permanent rows s) (c : StoreCall σ) :
    Adds c.run s c.writes permanent rows := by
  cases c with
  | store item provider =>
    have hone : (Value.tuple [.item item]).elements? = some ([item].map .item) := rfl
    exact storeAll_adds h hone provider
  | storeAll items provider => exact storeAll_adds h rfl provider
  | query q =>
    exact Adds.of_yields (r := .ok []) rfl ((q.run_yields h).bind fun _ h₁ => pure_yields h₁ ())

/-- **A step adds what it writes.** -/
theorem BlockStep.run_adds (h : Sees permanent rows s) (step : BlockStep σ) :
    Adds step.run s step.writes permanent rows := by
  cases step with
  | call c => exact c.run_adds h
  | attempt c =>
    obtain ⟨new, hnew, hcall⟩ := c.run_adds h
    exact ⟨new, hnew, hcall.attempt.bind fun _ h₁ => pure_yields h₁ ()⟩
  | raise e => exact Adds.of_yields (r := .error e) rfl (throw_yields h e)

/-! ## 2. Blocks -/

namespace Block

/-- What a block adds to the store, or the failure that ends it: the first one that a step does
    not catch. -/
def writes : Block σ → Except Failure (List Entry)
  | [] => .ok []
  | step :: steps => do
    let new ← step.writes
    return new ++ (← writes steps)

/-- The failure that ends a block. -/
def failure? (b : Block σ) : Option Failure :=
  match b.writes with
  | .ok _ => none
  | .error e => some e

/-- The entries that a block leaves in the store: none if it fails. -/
def written (b : Block σ) : List Entry := Entry.added b.writes

section Cons

variable {step : BlockStep σ} {new : List Entry}

theorem failure?_cons_error {e : Failure} (hw : step.writes = .error e) (steps : Block σ) :
    failure? (step :: steps) = some e := by
  rw [failure?, writes, hw, error_bind]

theorem failure?_cons_ok (hw : step.writes = .ok new) (steps : Block σ) :
    failure? (step :: steps) = failure? steps := by
  rw [failure?, failure?, writes, hw, ok_bind]
  cases writes steps with
  | error e => rfl
  | ok rest => rfl

theorem written_cons_ok (hw : step.writes = .ok new) {steps : Block σ}
    (hsteps : failure? steps = none) : written (step :: steps) = new ++ written steps := by
  rw [written, written, writes, hw, ok_bind]
  cases hrest : writes steps with
  | error e =>
    rw [failure?, hrest] at hsteps
    cases hsteps
  | ok rest => rfl

end Cons

theorem written_of_failure {b : Block σ} {e : Failure} (h : b.failure? = some e) :
    b.written = [] := by
  rw [failure?] at h
  rw [written]
  split at h
  · cases h
  · rename_i hw
    rw [hw, Entry.added_error]

/-- The steps of a block up to a failure. At the end of a block that did not fail the session sees
    the old rows, and new ones with the entries that the block writes. -/
theorem runSteps_yields (h : Sees permanent rows s) (b : Block σ) :
    ∃ answers s' seen,
      SessionWork.runSteps (b.map BlockStep.run) s = ((answers, b.failure?), s') ∧
      Sees permanent seen s' ∧
      (b.failure? = none → ∃ new : List (Row Entry),
        new.map (·.content) = b.written ∧ seen = rows ++ new) := by
  induction b generalizing s rows with
  | nil => exact ⟨[], s, rows, rfl, h, fun _ => ⟨[], rfl, (List.append_nil rows).symm⟩⟩
  | cons step steps ih =>
    obtain ⟨new, hnew, s₁, hstep, h₁⟩ := step.run_adds h
    cases hw : step.writes with
    | error e =>
      rw [hw] at hstep
      refine ⟨[], s₁, _, ?_, h₁, fun hnone => ?_⟩
      · rw [List.map_cons, SessionWork.runSteps, hstep, failure?_cons_error hw]
        rfl
      · rw [failure?_cons_error hw] at hnone
        cases hnone
    | ok es =>
      rw [hw] at hstep hnew
      obtain ⟨answers, s₂, seen, hsteps, h₂, hseen⟩ := ih h₁
      refine ⟨() :: answers, s₂, seen, ?_, h₂, fun hnone => ?_⟩
      · rw [List.map_cons, SessionWork.runSteps, hstep, failure?_cons_ok hw]
        simp only [Except.map, hsteps]
      · rw [failure?_cons_ok hw] at hnone
        obtain ⟨later, hlater, rfl⟩ := hseen hnone
        refine ⟨new ++ later, ?_, List.append_assoc rows new later⟩
        rw [List.map_append, hnew, hlater, written_cons_ok hw hnone, Entry.added_ok]

end Block

/-- Queries one after the other all have their answers, and change nothing. -/
theorem StoreQuery.runSteps_yields (h : Sees permanent rows s) (qs : List (StoreQuery σ)) :
    ∃ s',
      SessionWork.runSteps (qs.map StoreQuery.run) s =
        ((qs.map (·.answer (Entry.found rows)), none), s') ∧
      Sees permanent rows s' := by
  induction qs generalizing s with
  | nil => exact ⟨s, rfl, h⟩
  | cons q qs ih =>
    obtain ⟨s₁, hquery, h₁⟩ := q.run_yields h
    obtain ⟨s₂, hrest, h₂⟩ := ih h₁
    refine ⟨s₂, ?_, h₂⟩
    rw [List.map_cons, SessionWork.runSteps, hquery]
    simp only [hrest, List.map_cons]

section Scope

variable {steps : List (SessionWork α)} {ids : Nat → String} {trace : Trace} {answers : List α}
variable {seen : List (Row Entry)}

/-- Steps that all succeed are committed. -/
theorem scope_of_ok
    (hrun : SessionWork.runSteps steps ⟨.ofTable (Entry.tableOf rows) ids, .new, trace⟩ =
      ((answers, none), s))
    (h : Sees rows seen s) :
    ∃ ids' trace', SessionWork.scope steps (.ofTable (Entry.tableOf rows) ids) trace =
      ((answers, none), .ofTable (Entry.tableOf seen) ids', trace') := by
  obtain ⟨s', hcommit, h'⟩ := commit_yields h
  refine ⟨s'.connection.ids, s'.trace, ?_⟩
  rw [SessionWork.scope_eq, hrun, ← h'.connection_eq]
  simp only [SessionWork.finish, hcommit]

/-- Steps of which one fails are rolled back. -/
theorem scope_of_error {e : Failure}
    (hrun : SessionWork.runSteps steps ⟨.ofTable (Entry.tableOf rows) ids, .new, trace⟩ =
      ((answers, some e), s))
    (h : Sees rows seen s) :
    ∃ ids' trace', SessionWork.scope steps (.ofTable (Entry.tableOf rows) ids) trace =
      ((answers, some e), .ofTable (Entry.tableOf rows) ids', trace') := by
  obtain ⟨s', habandon, h'⟩ := abandon_yields h e
  refine ⟨s'.connection.ids, s'.trace, ?_⟩
  rw [SessionWork.scope_eq, hrun, ← h'.connection_eq]
  simp only [SessionWork.finish, habandon]

/-- **One block**: it leaves rows for the entries that it writes in the store, and none if it
    fails. -/
theorem scope_block (b : Block σ) (rows : List (Row Entry)) (ids : Nat → String) (trace : Trace) :
    ∃ answers, ∃ new : List (Row Entry), ∃ ids' trace', new.map (·.content) = b.written ∧
      SessionWork.scope (b.map BlockStep.run) (.ofTable (Entry.tableOf rows) ids) trace =
        ((answers, b.failure?), .ofTable (Entry.tableOf (rows ++ new)) ids', trace') := by
  obtain ⟨answers, s', seen, hrun, h', hseen⟩ := b.runSteps_yields (sees_new rows ids trace)
  cases hb : b.failure? with
  | none =>
    rw [hb] at hrun
    obtain ⟨new, hnew, rfl⟩ := hseen hb
    obtain ⟨ids', trace', hscope⟩ := scope_of_ok hrun h'
    exact ⟨answers, new, ids', trace', hnew, hscope⟩
  | some e =>
    rw [hb] at hrun
    obtain ⟨ids', trace', hscope⟩ := scope_of_error hrun h'
    refine ⟨answers, [], ids', trace', (b.written_of_failure hb).symm, ?_⟩
    rw [List.append_nil]
    exact hscope

/-- A block of queries leaves the store as it is. -/
theorem scope_queries (qs : List (StoreQuery σ)) (rows : List (Row Entry)) (ids : Nat → String)
    (trace : Trace) :
    ∃ ids' trace',
      SessionWork.scope (qs.map StoreQuery.run) (.ofTable (Entry.tableOf rows) ids) trace =
        ((qs.map (·.answer (Entry.found rows)), none), .ofTable (Entry.tableOf rows) ids',
          trace') := by
  obtain ⟨s', hrun, h'⟩ := StoreQuery.runSteps_yields (sees_new rows ids trace) qs
  exact scope_of_ok hrun h'

end Scope

/-! ## 3. Blocks one after the other -/

namespace StoreHost

/-- The host with an engine on a database whose table holds some entries. -/
def withEntries (host : StoreHost) (url : DatabaseUrl) (rows : List (Row Entry))
    (ids : Nat → String) : StoreHost :=
  { host with engine := some ⟨url, .ofTable (Entry.tableOf rows) ids⟩ }

/-- Blocks of work, each in a session of its own: the answers and the failure of each. -/
def runBlocks (blocks : List (List (SessionWork α))) : Work (List (List α × Option Failure)) :=
  blocks.mapM scope

variable {host : StoreHost} {url : DatabaseUrl} {ids ids' : Nat → String} {trace trace' : Trace}

/-- A block works on the connection of the engine. -/
theorem scope_withEntries {steps : List (SessionWork α)} {r : List α × Option Failure}
    {seen : List (Row Entry)}
    (h : SessionWork.scope steps (.ofTable (Entry.tableOf rows) ids) trace =
      (r, .ofTable (Entry.tableOf seen) ids', trace')) :
    scope steps (host.withEntries url rows ids, trace) =
      (.ok r, (host.withEntries url seen ids', trace')) := by
  have hengine : (host.withEntries url rows ids).engine =
      some ⟨url, .ofTable (Entry.tableOf rows) ids⟩ := rfl
  rw [scope_eq hengine, h]
  rfl

/-- **Blocks one after the other** leave in the store what those of them have written that ended
    normally. -/
theorem runBlocks_blocks (host : StoreHost) (url : DatabaseUrl) (blocks : List (Block σ))
    (rows : List (Row Entry)) (ids : Nat → String) (trace : Trace) :
    ∃ outcomes, ∃ new : List (Row Entry), ∃ ids' trace',
      runBlocks (blocks.map (·.map BlockStep.run)) (host.withEntries url rows ids, trace) =
        (.ok outcomes, (host.withEntries url (rows ++ new) ids', trace')) ∧
      outcomes.map (·.2) = blocks.map Block.failure? ∧
      new.map (·.content) = blocks.flatMap Block.written := by
  induction blocks generalizing rows ids trace with
  | nil => exact ⟨[], [], ids, trace, by rw [List.append_nil]; rfl, rfl, rfl⟩
  | cons b blocks ih =>
    obtain ⟨answers, new, ids₁, trace₁, hnew, hscope⟩ := scope_block b rows ids trace
    obtain ⟨outcomes, later, ids₂, trace₂, hrest, hfailures, hlater⟩ :=
      ih (rows ++ new) ids₁ trace₁
    refine ⟨(answers, b.failure?) :: outcomes, new ++ later, ids₂, trace₂, ?_,
      congrArg (b.failure? :: ·) hfailures, ?_⟩
    · rw [runBlocks, List.map_cons, List.mapM_cons]
      refine (bind_of_ok (scope_withEntries hscope)).trans ?_
      refine (bind_of_ok hrest).trans ?_
      rw [List.append_assoc]
      rfl
    · rw [List.map_append, hnew, hlater, List.flatMap_cons]

/-- Blocks of queries one after the other all answer from the same rows. -/
theorem runBlocks_queries (host : StoreHost) (url : DatabaseUrl)
    (blocks : List (List (StoreQuery σ))) (rows : List (Row Entry)) (ids : Nat → String)
    (trace : Trace) :
    ∃ ids' trace',
      runBlocks (blocks.map (·.map StoreQuery.run)) (host.withEntries url rows ids, trace) =
        (.ok (blocks.map fun qs => (qs.map (·.answer (Entry.found rows)), none)),
          (host.withEntries url rows ids', trace')) := by
  induction blocks generalizing ids trace with
  | nil => exact ⟨ids, trace, rfl⟩
  | cons qs blocks ih =>
    obtain ⟨ids₁, trace₁, hscope⟩ := scope_queries qs rows ids trace
    obtain ⟨ids₂, trace₂, hrest⟩ := ih ids₁ trace₁
    refine ⟨ids₂, trace₂, ?_⟩
    rw [runBlocks, List.map_cons, List.mapM_cons]
    refine (bind_of_ok (scope_withEntries hscope)).trans ?_
    refine (bind_of_ok hrest).trans ?_
    rfl

/-- **What queries find after any blocks.** Some blocks run one after the other against a store
    whose table is empty; they may write, query, catch failures and fail. Afterwards the table has
    one row for each entry that the blocks without a failure wrote, whatever identifiers the rows
    were given. Every query, in however many later blocks and however often, answers from one list
    of items for its period and service provider: the items of the entries that it asks for, each
    as often as it was written, ordered by their instants. -/
theorem queries_after_blocks (host : StoreHost) (url : DatabaseUrl) (ids : Nat → String)
    (trace : Trace) (blocks : List (Block σ)) :
    ∃ outcomes after, ∃ rows : List (Row Entry),
      runBlocks (blocks.map (·.map BlockStep.run)) (host.withEntries url [] ids, trace) =
        (.ok outcomes, after) ∧
      outcomes.map (·.2) = blocks.map Block.failure? ∧
      rows.map (·.content) = blocks.flatMap Block.written ∧
      (∀ p asked,
        (Entry.found rows p asked).Perm
          (((blocks.flatMap Block.written).filter (·.Wanted p asked)).map (·.item)) ∧
        (Entry.found rows p asked).Pairwise fun a b =>
          a.exchangedAt.instant ≤ b.exchangedAt.instant) ∧
      ∀ later : List (List (StoreQuery σ)), ∃ final,
        runBlocks (later.map (·.map StoreQuery.run)) after =
          (.ok (later.map fun qs => (qs.map (·.answer (Entry.found rows)), none)), final) := by
  obtain ⟨outcomes, rows, ids₁, trace₁, hblocks, hfailures, hrows⟩ :=
    runBlocks_blocks host url blocks [] ids trace
  rw [List.nil_append] at hblocks
  refine ⟨outcomes, _, rows, hblocks, hfailures, hrows, fun p asked => ?_, fun later => ?_⟩
  · rw [← hrows]
    exact ⟨Entry.perm_found rows p asked, Entry.pairwise_found rows p asked⟩
  · obtain ⟨ids₂, trace₂, hqueries⟩ := runBlocks_queries host url later rows ids₁ trace₁
    exact ⟨_, hqueries⟩

end StoreHost

end PeppolStatistics
