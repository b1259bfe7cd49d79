import PeppolStatistics.Proofs.Store.Runs
import PeppolStatistics.Proofs.Store.Settled

/-!
# Engines that cannot be set up

Setting up an engine lets go of the connection of the one before, and only then looks at the new
URL. A call that fails keeps the old engine, but the connection is gone: what the old engine has in
a file is still there, a database in memory is lost with everything in it.

* `StoreHost.settled_runAll`: between two calls nothing is open on the connection of the engine;
* `StoreHost.Alike`, `StoreHost.runAll_alike`: hosts that no later call can tell apart;
* `StoreHost.failed_initialisation`: after any run of calls, a failing call goes unnoticed unless
  the database is in memory; of a database in memory nothing is left.
-/

namespace PeppolStatistics

/-! ## 1. Calls -/

/-- A call on the engine of the store, or one unit of work on it. -/
inductive EngineCall (α : Type) where
  | initialise (url echo : Value)
  | engine
  | createTables
  | dropTables
  | reset
  | scope (steps : List (SessionWork α))

/-- What a call answers. -/
inductive EngineAnswer (α : Type) where
  | done
  /-- The database of the engine that is set up. -/
  | engine (url : DatabaseUrl)
  /-- The answers of the steps that succeeded, and the failure that ended them. -/
  | outcome (answers : List α) (failure : Option Failure)
deriving DecidableEq

variable {α β σ : Type}

namespace EngineCall

/-- Makes a call. -/
def run : EngineCall α → StoreHost.Work (EngineAnswer α)
  | .initialise url echo => do
    StoreHost.initialiseWith url echo
    return .done
  | .engine => do return .engine (← StoreHost.current).url
  | .createTables => do
    StoreHost.createTables
    return .done
  | .dropTables => do
    StoreHost.dropTables
    return .done
  | .reset => do
    StoreHost.resetEngine
    return .done
  | .scope steps => do
    let r ← StoreHost.scope steps
    return .outcome r.1 r.2

/-- Makes some calls one after the other, whatever becomes of each: all answers and failures. -/
def runAll : List (EngineCall α) → StoreHost × Trace →
    List (Except Failure (EngineAnswer α)) × (StoreHost × Trace)
  | [], s => ([], s)
  | call :: calls, s =>
    let (answer, s) := call.run s
    let (answers, s) := runAll calls s
    (answer :: answers, s)

/-- A call whose steps, if it has any, mark the connection as used when they write. All calls of
    the store do. -/
def Orderly : EngineCall α → Prop
  | .scope steps => ∀ step ∈ steps, SessionWork.Orderly step
  | _ => True

end EngineCall

/-- Every query is orderly work. -/
theorem StoreQuery.orderly_run (q : StoreQuery σ) : SessionWork.Orderly q.run := by
  cases q with
  | load p asked => exact (ItemStore.orderly_load p asked).map _
  | loadCollection p asked => exact (ItemStore.orderly_loadCollection p asked).map _
  | count p asked => exact (ItemStore.orderly_count p asked).map _
  | forEach p asked consume start =>
    exact (ItemStore.orderly_forEach p asked consume start).map _

theorem StoreCall.orderly_run (c : StoreCall σ) : SessionWork.Orderly c.run := by
  cases c with
  | store item provider => exact ItemStore.orderly_store _ provider
  | storeAll items provider => exact (ItemStore.orderly_storeAll _ provider).map _
  | query q => exact q.orderly_run.map _

/-- Every step of a block is orderly work. -/
theorem BlockStep.orderly_run (step : BlockStep σ) : SessionWork.Orderly step.run := by
  cases step with
  | call c => exact c.orderly_run
  | attempt c => exact c.orderly_run.attempt.map _
  | raise e => exact SessionWork.orderly_throw e

namespace StoreHost

variable {γ δ : Type} {h k : StoreHost} {e : Engine} {t : Trace} {url echo : Value}

/-! ## 2. Nothing is open between calls -/

/-- Nothing is open on the connection of the engine. -/
def Settled (h : StoreHost) : Prop := ∀ e, h.engine = some e → e.connection.Settled

theorem released_engine (h : StoreHost) : h.released.engine = h.engine.map Engine.disposed := by
  unfold released
  split
  · rename_i he
    rw [he]
    rfl
  · rename_i e he
    split <;> rw [he] <;> rfl

theorem settled_disposed (e : Engine) : e.disposed.connection.Settled := by
  unfold Engine.disposed
  split
  · exact Connection.settled_fresh e.connection.ids
  · exact e.connection.settled_rollback

theorem settled_released (h : StoreHost) : h.released.Settled := by
  intro e he
  rw [released_engine] at he
  obtain ⟨e', _, rfl⟩ := Option.map_eq_some_iff.mp he
  exact settled_disposed e'

theorem settled_connect (h : StoreHost) (u : DatabaseUrl) : (h.connect u).Settled := by
  cases u with
  | memory => exact Connection.settled_fresh h.ids
  | file path => exact Connection.settled_ofTable (h.files path) h.ids

theorem settled_withConnection {c : Connection} (hc : c.Settled) (h : StoreHost) (e : Engine) :
    (h.withConnection e c).Settled := by
  intro e' he'
  cases he'
  exact hc

/-- Work on the engine, if one is set up. -/
theorem settled_current {next : Engine → Work γ} (hs : h.Settled)
    (hnext : ∀ e, h.engine = some e → (next e (h, t)).2.1.Settled) :
    ((current >>= next) (h, t)).2.1.Settled := by
  cases he : h.engine with
  | none =>
    rw [bind_of_error (current_eq_error he t)]
    exact hs
  | some e =>
    rw [bind_of_ok (current_eq he t)]
    exact hnext e he

theorem settled_initialiseWith (url echo : Value) (h : StoreHost) (t : Trace) :
    (initialiseWith url echo (h, t)).2.1.Settled := by
  cases hdatabase : databaseOf url echo with
  | error f =>
    rw [initialiseWith_of_error hdatabase]
    exact h.settled_released
  | ok u =>
    obtain ⟨t', hok⟩ := initialiseWith_of_ok hdatabase h t
    rw [hok]
    intro e he
    cases he
    exact h.released.settled_connect u

/-- **One call leaves nothing open.** -/
theorem settled_run {call : EngineCall α} (hcall : call.Orderly) (hs : h.Settled) (t : Trace) :
    (call.run (h, t)).2.1.Settled := by
  cases call with
  | initialise url echo =>
    rw [EngineCall.run, bind_pure_eq]
    exact settled_initialiseWith url echo h t
  | engine => exact settled_current hs fun e he => hs
  | createTables =>
    rw [EngineCall.run, bind_pure_eq]
    refine settled_current hs fun e he => ?_
    rw [bind_of_ok (setConnection_eq he _ t)]
    exact settled_withConnection (Connection.settled_ofTable _ _) h e
  | dropTables =>
    rw [EngineCall.run, bind_pure_eq]
    refine settled_current hs fun e he => ?_
    rw [setConnection_eq he _ t]
    exact settled_withConnection (Connection.settled_fresh _) h e
  | reset =>
    intro e he
    cases he
  | scope steps =>
    rw [EngineCall.run, bind_pure_eq]
    cases he : h.engine with
    | none =>
      rw [scope_eq_error he]
      exact hs
    | some e =>
      rw [scope_eq he]
      exact settled_withConnection (SessionWork.settled_scope hcall (hs e he) t) h e

/-- **A run of calls leaves nothing open.** -/
theorem settled_runAll {calls : List (EngineCall α)} (hcalls : ∀ call ∈ calls, call.Orderly)
    (hs : h.Settled) (t : Trace) : (EngineCall.runAll calls (h, t)).2.1.Settled := by
  induction calls generalizing h t with
  | nil => exact hs
  | cons call calls ih =>
    have hstep := settled_run (hcalls call List.mem_cons_self) hs t
    exact ih (fun c hc => hcalls c (List.mem_cons_of_mem _ hc)) hstep _

/-! ## 3. Hosts that cannot be told apart -/

/-- **Hosts that no later call can tell apart**: they have the same engine, and the same files but
    for the one of the engine, which is not looked at before the engine has let go of it. As long
    as there is an engine, the identifiers of rows are those of its connection. -/
structure Alike (h k : StoreHost) : Prop where
  engine : h.engine = k.engine
  ids : h.engine = none → h.ids = k.ids
  files : ∀ p, (∀ e, h.engine = some e → e.url ≠ .file p) → h.files p = k.files p

theorem Alike.refl (h : StoreHost) : Alike h h := ⟨rfl, fun _ => rfl, fun _ _ => rfl⟩

theorem released_of_none (he : h.engine = none) : h.released = h := by
  unfold released
  rw [he]

theorem released_of_some (he : h.engine = some e) :
    h.released =
      ⟨fun p => if e.url = .file p then e.connection.committed else h.files p,
        e.connection.ids, some e.disposed⟩ := by
  unfold released
  rw [he]
  dsimp only
  split
  · rename_i hurl
    simp [hurl]
  · rename_i path hurl
    simp [hurl, eq_comm]

/-- Hosts that cannot be told apart are the same once their engine has let go of its connection. -/
theorem Alike.released_eq (halike : Alike h k) : h.released = k.released := by
  cases he : h.engine with
  | none =>
    have hk : k.engine = none := halike.engine.symm.trans he
    have hfiles : h.files = k.files := by
      funext p
      refine halike.files p fun e he' => ?_
      rw [he] at he'
      cases he'
    rw [released_of_none he, released_of_none hk]
    have hids : h.ids = k.ids := halike.ids he
    obtain ⟨files, ids, engine⟩ := h
    obtain ⟨files', ids', engine'⟩ := k
    cases hfiles
    cases hids
    cases halike.engine
    rfl
  | some e =>
    have hk : k.engine = some e := halike.engine.symm.trans he
    rw [released_of_some he, released_of_some hk, StoreHost.mk.injEq]
    refine ⟨funext fun p => ?_, rfl, rfl⟩
    split
    · rfl
    · rename_i hurl
      refine halike.files p fun e' he' => ?_
      obtain rfl := Option.some.inj (he.symm.trans he')
      exact hurl

/-- **An engine that is not in memory and has nothing open can let go of its connection** without
    anyone noticing. -/
theorem alike_released (hs : h.Settled) (hmemory : ∀ e, h.engine = some e → e.url ≠ .memory) :
    Alike h.released h := by
  cases he : h.engine with
  | none =>
    rw [released_of_none he]
    exact .refl h
  | some e =>
    have hdisposed : e.disposed = e := by
      unfold Engine.disposed
      split
      · rename_i hurl
        exact absurd hurl (hmemory e he)
      · rw [Connection.rollback_of_settled (hs e he)]
    rw [released_of_some he, hdisposed]
    refine ⟨he.symm, nofun, fun p hp => ?_⟩
    exact if_neg (hp e rfl)

/-- Work that does the same on two hosts, as far as its answer, the log and all later calls go. -/
structure SameOn (work : Work γ) (h k : StoreHost) (t : Trace) : Prop where
  answer : (work (h, t)).1 = (work (k, t)).1
  log : (work (h, t)).2.2 = (work (k, t)).2.2
  hosts : Alike (work (h, t)).2.1 (work (k, t)).2.1

theorem SameOn.of_eq {work : Work γ} (heq : work (h, t) = work (k, t)) : SameOn work h k t := by
  refine ⟨by rw [heq], by rw [heq], ?_⟩
  rw [heq]
  exact .refl _

theorem sameOn_pure (halike : Alike h k) (a : γ) : SameOn (pure a) h k t := ⟨rfl, rfl, halike⟩

theorem sameOn_ofTraced (halike : Alike h k) (work : Traced γ) : SameOn (ofTraced work) h k t :=
  ⟨rfl, rfl, halike⟩

/-- Work that goes on after an answer. -/
theorem SameOn.bind {work : Work γ} {next : γ → Work δ} (hwork : SameOn work h k t)
    (hnext : ∀ a h' k' t', Alike h' k' → SameOn (next a) h' k' t') :
    SameOn (work >>= next) h k t := by
  obtain ⟨hanswer, hlog, hhosts⟩ := hwork
  cases hh : work (h, t) with
  | mk r s =>
    cases hk : work (k, t) with
    | mk r' s' =>
      obtain ⟨h', t'⟩ := s
      obtain ⟨k', t''⟩ := s'
      rw [hh, hk] at hanswer hlog hhosts
      cases hanswer
      cases hlog
      cases r with
      | error f =>
        refine ⟨?_, ?_, ?_⟩ <;> rw [bind_of_error hh, bind_of_error hk]
        exact hhosts
      | ok a =>
        obtain ⟨hanswer', hlog', hhosts'⟩ := hnext a h' k' t' hhosts
        refine ⟨?_, ?_, ?_⟩ <;> rw [bind_of_ok hh, bind_of_ok hk]
        · exact hanswer'
        · exact hlog'
        · exact hhosts'

/-- Work on the engine, if one is set up. -/
theorem sameOn_current {next : Engine → Work γ} (halike : Alike h k)
    (hnext : ∀ e, h.engine = some e → SameOn (next e) h k t) :
    SameOn (current >>= next) h k t := by
  cases he : h.engine with
  | none =>
    have hk : k.engine = none := halike.engine.symm.trans he
    refine ⟨?_, ?_, ?_⟩ <;>
      rw [bind_of_error (current_eq_error he t), bind_of_error (current_eq_error hk t)]
    exact halike
  | some e =>
    have hk : k.engine = some e := halike.engine.symm.trans he
    obtain ⟨hanswer, hlog, hhosts⟩ := hnext e he
    refine ⟨?_, ?_, ?_⟩ <;> rw [bind_of_ok (current_eq he t), bind_of_ok (current_eq hk t)]
    · exact hanswer
    · exact hlog
    · exact hhosts

theorem alike_withConnection (halike : Alike h k) (he : h.engine = some e) (c : Connection) :
    Alike (h.withConnection e c) (k.withConnection e c) := by
  refine ⟨rfl, nofun, fun p hp => halike.files p fun e' he' => ?_⟩
  obtain rfl := Option.some.inj (he.symm.trans he')
  exact hp { e with connection := c } rfl

theorem sameOn_setConnection (halike : Alike h k) (he : h.engine = some e) (c : Connection) :
    SameOn (setConnection c) h k t := by
  have hk : k.engine = some e := halike.engine.symm.trans he
  refine ⟨?_, ?_, ?_⟩ <;> rw [setConnection_eq he c t, setConnection_eq hk c t]
  exact alike_withConnection halike he c

theorem sameOn_scope (halike : Alike h k) (steps : List (SessionWork α)) :
    SameOn (scope steps) h k t := by
  cases he : h.engine with
  | none =>
    have hk : k.engine = none := halike.engine.symm.trans he
    refine ⟨?_, ?_, ?_⟩ <;> rw [scope_eq_error he, scope_eq_error hk]
    exact halike
  | some e =>
    have hk : k.engine = some e := halike.engine.symm.trans he
    refine ⟨?_, ?_, ?_⟩ <;> rw [scope_eq he, scope_eq hk]
    exact alike_withConnection halike he _

/-- A new engine looks at nothing but what the old one has left. -/
theorem initialiseWith_congr (hreleased : h.released = k.released) (url echo : Value) (t : Trace) :
    initialiseWith url echo (h, t) = initialiseWith url echo (k, t) := by
  have hrelease (x : StoreHost) :
      (modify fun s => (s.1.released, s.2) : Work Unit) (x, t) = (.ok (), (x.released, t)) := rfl
  unfold initialiseWith
  rw [bind_of_ok (hrelease h), bind_of_ok (hrelease k), hreleased]

/-- **One call** cannot tell them apart. -/
theorem sameOn_run (halike : Alike h k) (call : EngineCall α) (t : Trace) :
    SameOn call.run h k t := by
  cases call with
  | initialise url echo =>
    have hsame := SameOn.of_eq (initialiseWith_congr halike.released_eq url echo t)
    exact hsame.bind fun _ _ _ _ h' => sameOn_pure h' _
  | engine => exact sameOn_current halike fun e _ => sameOn_pure halike _
  | createTables =>
    refine SameOn.bind (sameOn_current halike fun e he => ?_) fun _ _ _ _ h' => sameOn_pure h' _
    exact (sameOn_setConnection halike he _).bind fun _ _ _ _ h' => sameOn_ofTraced h' _
  | dropTables =>
    refine SameOn.bind (sameOn_current halike fun e he => ?_) fun _ _ _ _ h' => sameOn_pure h' _
    exact sameOn_setConnection halike he _
  | reset =>
    refine SameOn.of_eq ?_
    show (Except.ok EngineAnswer.done, ({ h.released with engine := none }, t)) =
      (Except.ok EngineAnswer.done, ({ k.released with engine := none }, t))
    rw [halike.released_eq]
  | scope steps => exact (sameOn_scope halike steps).bind fun _ _ _ _ h' => sameOn_pure h' _

/-- **A run of calls** cannot tell them apart: it has the same answers and the same log. -/
theorem runAll_alike (halike : Alike h k) (calls : List (EngineCall α)) (t : Trace) :
    (EngineCall.runAll calls (h, t)).1 = (EngineCall.runAll calls (k, t)).1 ∧
      (EngineCall.runAll calls (h, t)).2.2 = (EngineCall.runAll calls (k, t)).2.2 := by
  induction calls generalizing h k t with
  | nil => exact ⟨rfl, rfl⟩
  | cons call calls ih =>
    obtain ⟨hanswer, hlog, hhosts⟩ := sameOn_run halike call t
    have hafter : ((call.run (k, t)).2.1, (call.run (h, t)).2.2) = (call.run (k, t)).2 := by
      rw [hlog]
    obtain ⟨hanswers, hlogs⟩ := ih hhosts (call.run (h, t)).2.2
    rw [hafter] at hanswers hlogs
    refine ⟨?_, hlogs⟩
    show (call.run (h, t)).1 :: _ = (call.run (k, t)).1 :: _
    exact List.cons_eq_cons.mpr ⟨hanswer, hanswers⟩

end StoreHost

/-! ## 4. A database in memory that is lost -/

/-- How a query fails if there is no table. -/
def StoreQuery.withoutTable : StoreQuery σ → Failure
  | .load _ _ | .loadCollection _ _ => .backend .load
  | .count _ _ => .backend .count
  | .forEach _ _ _ _ => .missingTable

/-- On a new database a unit of work ends with its first query. -/
theorem StoreQuery.scope_fresh (q : StoreQuery σ) (steps : List (SessionWork (QueryAnswer σ)))
    (ids : Nat → String) (t : Trace) :
    ∃ t', SessionWork.scope (q.run :: steps) (.fresh ids) t =
      (([], some q.withoutTable), .fresh ids, t') := by
  rw [SessionWork.scope_eq]
  cases q with
  | load | loadCollection | count | forEach => exact ⟨_, rfl⟩

namespace StoreHost

variable {h : StoreHost} {url echo : Value} {f : Failure} {t : Trace} {after : StoreHost × Trace}

/-- Letting go of a connection twice is letting go of it once. -/
theorem released_released (h : StoreHost) : h.released.released = h.released := by
  cases he : h.engine with
  | none => rw [released_of_none he, released_of_none he]
  | some e =>
    obtain ⟨files, ids, engine⟩ := h
    obtain ⟨url, connection⟩ := e
    cases he
    cases url with
    | memory => rfl
    | file path =>
      have hfiles : (fun p => if p = path then connection.committed
          else if p = path then connection.committed else files p) =
          fun p => if p = path then connection.committed else files p := by
        funext p
        split <;> rfl
      exact congrArg (StoreHost.mk · _ _) hfiles

theorem url_disposed (e : Engine) : e.disposed.url = e.url := by
  unfold Engine.disposed
  split <;> rfl

/-- An engine on a database in memory has a new one once it has let go of its connection. -/
theorem released_of_memory (hmemory : h.engine.map (·.url) = some .memory) :
    h.released.engine = some ⟨.memory, .fresh h.released.ids⟩ := by
  obtain ⟨⟨url, connection⟩, he, hurl⟩ := Option.map_eq_some_iff.mp hmemory
  cases hurl
  rw [released_of_some he]
  rfl

/-- **What becomes of the store when an engine cannot be set up**, after any run of calls on the
    store. Nothing is logged, and the engine keeps its database. Whatever is set up next is set up
    as if the call had not been made. If the database is not in memory, no later call can tell
    that the failing one was made. A database in memory is lost: it is as new, and every query
    fails, since the table is missing. -/
theorem failed_initialisation {files : String → ItemTable} {ids : Nat → String}
    {calls : List (EngineCall α)} (hcalls : ∀ call ∈ calls, call.Orderly)
    (hfails : initialiseWith url echo (EngineCall.runAll calls (⟨files, ids, none⟩, t)).2 =
      (.error f, after)) :
    let before := (EngineCall.runAll calls (⟨files, ids, none⟩, t)).2
    databaseOf url echo = .error f ∧
    after.2 = before.2 ∧
    after.1.engine.map (·.url) = before.1.engine.map (·.url) ∧
    (∀ url' echo', initialiseWith url' echo' after = initialiseWith url' echo' before) ∧
    (before.1.engine.map (·.url) ≠ some .memory → ∀ later : List (EngineCall β),
      (EngineCall.runAll later after).1 = (EngineCall.runAll later before).1 ∧
        (EngineCall.runAll later after).2.2 = (EngineCall.runAll later before).2.2) ∧
    (before.1.engine.map (·.url) = some .memory →
      after.1.engine = some ⟨.memory, .fresh after.1.ids⟩ ∧
        ∀ (q : StoreQuery σ) (steps : List (SessionWork (QueryAnswer σ))), ∃ t',
          scope (q.run :: steps) after = (.ok ([], some q.withoutTable), (after.1, t'))) := by
  intro before
  obtain ⟨hdatabase, rfl⟩ := initialiseWith_eq_error hfails
  have hsettled : before.1.Settled := by
    refine settled_runAll hcalls ?_ t
    intro e he
    cases he
  refine ⟨hdatabase, rfl, ?_, fun url' echo' => ?_, fun hmemory later => ?_, fun hmemory => ?_⟩
  · rw [released_engine, Option.map_map]
    exact congrArg (before.1.engine.map ·) (funext url_disposed)
  · exact initialiseWith_congr before.1.released_released url' echo' before.2
  · have hfile : ∀ e, before.1.engine = some e → e.url ≠ .memory := by
      intro e he hurl
      rw [he, Option.map_some, hurl] at hmemory
      exact hmemory rfl
    exact runAll_alike (alike_released hsettled hfile) later before.2
  · have hnew := released_of_memory hmemory
    refine ⟨hnew, fun q steps => ?_⟩
    obtain ⟨t', hscope⟩ := q.scope_fresh steps before.1.released.ids before.2
    refine ⟨t', ?_⟩
    rw [scope_eq hnew, hscope, withConnection, ← hnew]

/-- An invoice of the last day of the calendar. -/
def lastEntry : Entry where
  item := StoredRecord.lastInvoice .utc (by decide)
  provider := none
  inCalendar := by decide

/-- The period of the last day of the calendar. -/
def lastDay : ReportPeriod := ⟨DateTime.latest.date, DateTime.latest.date, by decide⟩

/-- **A failing call loses what is stored in memory**: one record was counted before, and the table
    is missing afterwards. -/
theorem failed_initialisation_loses_rows :
    let before : StoreHost × Trace :=
      (StoreHost.empty.withEntries .memory [⟨"0", lastEntry⟩] toString, ⟨.empty, []⟩)
    let count : StoreQuery Unit := .count lastDay none
    ∃ after t₁ t₂,
      initialiseWith (.text "no url") (.bool false) before = (.error .badDatabaseUrl, after) ∧
      scope [count.run] before = (.ok ([.number 1], none), (before.1, t₁)) ∧
      scope [count.run] after = (.ok ([], some (.backend .count)), (after.1, t₂)) := by
  intro before count
  have hdatabase : databaseOf (.text "no url") (.bool false) = .error .badDatabaseUrl := by decide
  have hone : SessionWork.scope [count.run]
      (.ofTable (Entry.tableOf [⟨"0", lastEntry⟩]) toString) before.2 =
        (([.number 1], none), .ofTable (Entry.tableOf [⟨"0", lastEntry⟩]) toString, before.2) := by
    rw [SessionWork.scope_eq]
    rfl
  obtain ⟨t₂, hlost⟩ := count.scope_fresh [] before.1.released.ids before.2
  refine ⟨(before.1.released, before.2), _, t₂, initialiseWith_of_error hdatabase _ _,
    scope_withEntries hone, ?_⟩
  have hnew : before.1.released.engine = some ⟨.memory, .fresh before.1.released.ids⟩ := rfl
  rw [scope_eq hnew, hlost]
  rfl

/-- A table is set up in memory and an item is stored; then the engine is to be set up with a text
    that is no URL. -/
theorem failed_initialisation_noUrl :
    let calls : List (EngineCall Unit) :=
      [.initialise (.text "sqlite://") (.bool false), .createTables,
        .scope [(BlockStep.call (.store lastEntry.item none) : BlockStep Unit).run]]
    let before := (EngineCall.runAll calls (.empty, ⟨.empty, []⟩)).2
    (∀ call ∈ calls, call.Orderly) ∧
    ∃ after,
      initialiseWith (.text "no url") (.bool false) before = (.error .badDatabaseUrl, after) ∧
      after.1.engine = some ⟨.memory, .fresh after.1.ids⟩ := by
  intro calls before
  have hcalls : ∀ call ∈ calls, call.Orderly := by
    simp only [calls, List.forall_mem_cons]
    refine ⟨trivial, trivial, ?_, List.forall_mem_nil _⟩
    intro step hstep
    obtain rfl := List.mem_singleton.mp hstep
    exact BlockStep.orderly_run _
  have hdatabase : databaseOf (.text "no url") (.bool false) = .error .badDatabaseUrl := by decide
  have hfails := initialiseWith_of_error hdatabase before.1 before.2
  obtain ⟨_, _, _, _, _, hlost⟩ := failed_initialisation (β := Unit) (σ := Unit) hcalls hfails
  have hmemory : before.1.engine.map (·.url) = some .memory := by rfl
  exact ⟨hcalls, _, hfails, (hlost hmemory).1⟩

end StoreHost

end PeppolStatistics
