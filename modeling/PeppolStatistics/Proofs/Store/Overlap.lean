import PeppolStatistics.Proofs.Store.Nested
import PeppolStatistics.Proofs.Store.Runs

/-!
# Blocks that overlap

Two blocks that store items, each in a session of its own, nested or taking turns in any order of
their moves. Both write on the one connection, so that the end of one decides on what the other has
written so far.

* `Progress.move_toBlock`: what one move does to the connection, as events of the table;
* `Overlap.run_toBlocks`: what a run does, by induction on the moves;
* `Ledger.kept_foldl`: what is permanent after some events (`survivors`);
* `Overlap.rows_after_blocks`: what two blocks leave in the store.
-/

namespace PeppolStatistics

/-! ## 1. Tables with open work -/

/-- What was written to a table and is permanent, and what was written since. -/
structure Ledger where
  kept : List Entry
  opened : List Entry

/-- What happens to a table. -/
inductive StoreEvent where
  | wrote (es : List Entry)
  | commit
  | rollback

namespace Ledger

/-- The table to which nothing was written yet. -/
def empty : Ledger := ⟨[], []⟩

/-- **A connection to the table**: behind some earlier rows it holds one row for each entry that
    was written, whatever identifiers these rows were given. -/
def Holds (l : Ledger) (rows : List (Row Entry)) (c : Connection) : Prop :=
  ∃ kept opened : List (Row Entry), kept.map (·.content) = l.kept ∧
    opened.map (·.content) = l.opened ∧ c.committed = Entry.tableOf (rows ++ kept) ∧
    c.current = Entry.tableOf (rows ++ kept ++ opened)

/-- The table after an event. -/
def apply (l : Ledger) : StoreEvent → Ledger
  | .wrote es => ⟨l.kept, l.opened ++ es⟩
  | .commit => ⟨l.kept ++ l.opened, []⟩
  | .rollback => ⟨l.kept, []⟩

/-- The table after some events. -/
def applyAll (l : Ledger) (events : List StoreEvent) : Ledger := events.foldl apply l

end Ledger

/-! ## 2. Blocks that store -/

/-- A step of a block that stores: a call, a call whose failure is caught, or a failure of the
    block. -/
inductive StoringStep where
  | store (item : Item) (provider : Option String)
  | storeAll (items : List Item) (provider : Option String)
  | attempt (items : List Item) (provider : Option String)
  | raise (e : Failure)

/-- The steps of a block that stores. -/
abbrev StoringBlock := List StoringStep

/-- The step as one of any block. -/
def StoringStep.toStep : StoringStep → BlockStep Unit
  | .store item provider => .call (.store item provider)
  | .storeAll items provider => .call (.storeAll items provider)
  | .attempt items provider => .attempt (.storeAll items provider)
  | .raise e => .raise e

namespace StoringBlock

/-- The block as one of any calls. -/
def toBlock (b : StoringBlock) : Block Unit := b.map StoringStep.toStep

/-- The steps as work in a session. -/
def steps (b : StoringBlock) : List (SessionWork Unit) := b.toBlock.map BlockStep.run

end StoringBlock

/-- How far a block has come: whether it has used the connection, and the steps to be made. -/
inductive Progress where
  | running (used : Bool) (b : StoringBlock)
  | failing (used : Bool) (e : Failure)
  | ended (failure : Option Failure)

namespace Progress

/-- The next move of a block, and what it does to the table. A block that did not use the
    connection does nothing to it at its end. -/
def move : Progress → Progress × List StoreEvent
  | .running used (step :: steps) =>
    match step.toStep.writes with
    | .ok es => (.running (used || !es.isEmpty) steps, [.wrote es])
    | .error e => (.failing used e, [])
  | .running used [] => (.ended none, if used then [.commit] else [])
  | .failing used e => (.ended (some e), if used then [.rollback] else [])
  | .ended failure => (.ended failure, [])

/-- The unit of work of a block that has come so far: nothing waits in its session. -/
def toBlock : Progress → OpenBlock Unit
  | .running used b => .running ⟨[], used, false⟩ b.steps
  | .failing used e => .failing ⟨[], used, false⟩ e
  | .ended failure => .ended failure

end Progress

/-! ## 3. Moves -/

section Moves

/-- A session on a table in which nothing waits to be written. -/
structure Ledger.At (l : Ledger) (rows : List (Row Entry)) (used : Bool) (s : SessionState) :
    Prop where
  holds : l.Holds rows s.connection
  session : s.session = ⟨[], used, false⟩

@[simp] theorem Ledger.apply_wrote_nil (l : Ledger) : l.apply (.wrote []) = l := by
  rw [apply, List.append_nil]

variable {rows : List (Row Entry)} {l : Ledger} {used : Bool} {s : SessionState}

/-- Work that writes some entries to any table, or none if it fails. -/
def Stores (work : SessionWork Unit) (r : Except Failure (List Entry)) : Prop :=
  ∀ (rows : List (Row Entry)) (l : Ledger) (used : Bool) (s : SessionState), l.At rows used s →
    ∃ s', work s = (r.map fun _ => (), s') ∧
      (l.apply (.wrote (Entry.added r))).At rows (used || !(Entry.added r).isEmpty) s'

theorem storeAll_stores {v : Value} {items : List Item}
    (hv : v.elements? = some (items.map .item)) (provider : Option String) :
    Stores (do let _ ← ItemStore.storeAll v provider) (Entry.ofItems items provider) := by
  intro rows l used s hs
  obtain ⟨⟨kept, opened, hkept, hopened, hcommitted, hcurrent⟩, hsession⟩ := hs
  obtain ⟨trace, hstore⟩ := storeAll_eq hcurrent (by rw [hsession]) (by rw [hsession]) hv provider
  let r := Entry.ofItems items provider
  have hafter : (l.apply (.wrote (Entry.added r))).At rows (used || !(Entry.added r).isEmpty)
      { connection := s.connection.writing (rows ++ kept ++ opened) (Entry.added r)
        session := ⟨[], s.session.began || !(Entry.added r).isEmpty, false⟩
        trace } := by
    refine ⟨⟨kept, opened ++ Row.numbered s.connection.ids (Entry.added r), hkept, ?_,
      hcommitted, ?_⟩, by rw [hsession]⟩
    · rw [List.map_append, hopened, Row.content_numbered]
      rfl
    · rw [← List.append_assoc]
      rfl
  refine ⟨_, ?_, hafter⟩
  cases hr : Entry.ofItems items provider with
  | error e =>
    simp only [r, hr] at hstore ⊢
    exact bind_of_error hstore
  | ok new =>
    simp only [r, hr] at hstore ⊢
    exact bind_of_ok hstore

theorem attempt_stores {work : SessionWork Unit} {r : Except Failure (List Entry)}
    (h : Stores work r) : Stores (do let _ ← work.attempt) (.ok (Entry.added r)) := by
  intro rows l used s hs
  obtain ⟨s', hwork, hs'⟩ := h rows l used s hs
  exact ⟨s', bind_of_ok (attempt_eq hwork), hs'⟩

/-- **A step writes the same on every table.** -/
theorem StoringStep.run_stores (step : StoringStep) :
    Stores step.toStep.run step.toStep.writes := by
  cases step with
  | store item provider =>
    have hone : (Value.tuple [.item item]).elements? = some ([item].map .item) := rfl
    exact storeAll_stores hone provider
  | storeAll items provider => exact storeAll_stores rfl provider
  | attempt items provider => exact attempt_stores (storeAll_stores rfl provider)
  | raise e =>
    intro rows l used s hs
    refine ⟨s, rfl, ?_⟩
    show (l.apply (.wrote [])).At rows (used || false) s
    rw [l.apply_wrote_nil, Bool.or_false]
    exact hs

theorem Ledger.Holds.commit {c : Connection} (h : l.Holds rows c) :
    (l.apply .commit).Holds rows c.commit := by
  obtain ⟨kept, opened, hkept, hopened, _, hcurrent⟩ := h
  refine ⟨kept ++ opened, [], ?_, rfl, ?_, ?_⟩
  · rw [List.map_append, hkept, hopened]
    rfl
  · rw [← List.append_assoc]
    exact hcurrent
  · rw [List.append_nil, ← List.append_assoc]
    exact hcurrent

theorem Ledger.Holds.rollback {c : Connection} (h : l.Holds rows c) :
    (l.apply .rollback).Holds rows c.rollback := by
  obtain ⟨kept, _, hkept, _, hcommitted, _⟩ := h
  refine ⟨kept, [], hkept, rfl, hcommitted, ?_⟩
  rw [List.append_nil]
  exact hcommitted

theorem Ledger.At.commit (h : l.At rows used s) :
    ∃ s', SessionWork.commit s = (.ok (), s') ∧
      (l.applyAll (if used then [.commit] else [])).Holds rows s'.connection := by
  obtain ⟨connection, session, trace⟩ := s
  obtain ⟨hholds, rfl⟩ := h
  cases used with
  | false => exact ⟨_, rfl, hholds⟩
  | true => exact ⟨_, rfl, hholds.commit⟩

theorem Ledger.At.abandon (h : l.At rows used s) (e : Failure) :
    (l.applyAll (if used then [.rollback] else [])).Holds rows
      (SessionWork.abandon e s).2.connection := by
  obtain ⟨connection, session, trace⟩ := s
  obtain ⟨hholds, rfl⟩ := h
  cases used with
  | false => exact hholds
  | true => exact hholds.rollback

/-- **One move of a block** does to the connection what it does to the table. -/
theorem Progress.move_toBlock (p : Progress) {c : Connection} (hc : l.Holds rows c)
    (trace : Trace) :
    ∃ answer c' trace', p.toBlock.move c trace = ((p.move.1.toBlock, answer), c', trace') ∧
      (l.applyAll p.move.2).Holds rows c' := by
  cases p with
  | running used b =>
    have hs : l.At rows used ⟨c, ⟨[], used, false⟩, trace⟩ := ⟨hc, rfl⟩
    cases b with
    | nil =>
      obtain ⟨s', hcommit, hs'⟩ := hs.commit
      exact ⟨none, s'.connection, s'.trace, OpenBlock.move_commit hcommit, hs'⟩
    | cons step steps =>
      obtain ⟨s', hstep, hholds, hsession⟩ := step.run_stores rows l used _ hs
      rw [move]
      cases hw : step.toStep.writes with
      | error e =>
        rw [hw] at hstep hholds hsession
        rw [Entry.added_error, l.apply_wrote_nil] at hholds
        rw [Entry.added_error, List.isEmpty_nil, Bool.not_true, Bool.or_false] at hsession
        have hmove := OpenBlock.move_step_error hstep (StoringBlock.steps steps)
        rw [hsession] at hmove
        exact ⟨none, s'.connection, s'.trace, hmove, hholds⟩
      | ok es =>
        rw [hw] at hstep hholds hsession
        have hmove := OpenBlock.move_step hstep (StoringBlock.steps steps)
        rw [hsession] at hmove
        exact ⟨some (), s'.connection, s'.trace, hmove, hholds⟩
  | failing used e =>
    have hs : l.At rows used ⟨c, ⟨[], used, false⟩, trace⟩ := ⟨hc, rfl⟩
    exact ⟨none, _, _, OpenBlock.move_failing ⟨c, ⟨[], used, false⟩, trace⟩ e, hs.abandon e⟩
  | ended failure => exact ⟨none, c, trace, rfl, hc⟩

end Moves

/-! ## 4. Runs -/

namespace Progress

/-- How far two blocks have come after the next move of one of them. -/
def advance (ps : Side → Progress) (side : Side) : Side → Progress :=
  fun s => if s = side then (ps side).move.1 else ps s

/-- How far two blocks have come after some moves. -/
def after (ps : Side → Progress) (schedule : List Side) : Side → Progress :=
  schedule.foldl advance ps

/-- What some moves of two blocks do to the table. -/
def history : (Side → Progress) → List Side → List StoreEvent
  | _, [] => []
  | ps, side :: schedule => (ps side).move.2 ++ history (advance ps side) schedule

end Progress

open Progress in
/-- **What a run does to the connection** is what its moves do to the table. -/
theorem Overlap.run_toBlocks {rows : List (Row Entry)} {l : Ledger} (ps : Side → Progress)
    {c : Connection} (hc : l.Holds rows c) (trace : Trace) (schedule : List Side) :
    ∃ c' trace', Overlap.run ⟨c, trace, fun s => (ps s).toBlock⟩ schedule =
        ⟨c', trace', fun s => (after ps schedule s).toBlock⟩ ∧
      (l.applyAll (history ps schedule)).Holds rows c' := by
  induction schedule generalizing ps l c trace with
  | nil => exact ⟨c, trace, rfl, hc⟩
  | cons side schedule ih =>
    obtain ⟨answer, c₁, trace₁, hmove, hc₁⟩ := (ps side).move_toBlock hc trace
    have hblocks : Overlap.move ⟨c, trace, fun s => (ps s).toBlock⟩ side =
        ⟨c₁, trace₁, fun s => (advance ps side s).toBlock⟩ := by
      have hother : (fun s => (advance ps side s).toBlock) =
          fun s => if s = side then (ps side).move.1.toBlock else (ps s).toBlock := by
        funext s
        rw [advance]
        split <;> rfl
      rw [move, hmove, hother]
    obtain ⟨c₂, trace₂, hrest, hc₂⟩ := ih (advance ps side) hc₁ trace₁
    refine ⟨c₂, trace₂, ?_, ?_⟩
    · rw [run, List.foldl_cons, hblocks, ← run, hrest]
      rfl
    · rw [history, Ledger.applyAll, List.foldl_append]
      exact hc₂

/-! ## 5. What becomes permanent -/

/-- Whether the next end among some events is a commit. -/
def nextIsCommit : List StoreEvent → Bool
  | [] => false
  | .wrote _ :: events => nextIsCommit events
  | .commit :: _ => true
  | .rollback :: _ => false

/-- The entries that become permanent: those after which the next end is a commit, whoever wrote
    them. -/
def survivors : List StoreEvent → List Entry
  | [] => []
  | .wrote es :: events => (if nextIsCommit events then es else []) ++ survivors events
  | _ :: events => survivors events

/-- All entries that are written. -/
def allWritten : List StoreEvent → List Entry
  | [] => []
  | .wrote es :: events => es ++ allWritten events
  | _ :: events => allWritten events

theorem allWritten_append (events later : List StoreEvent) :
    allWritten (events ++ later) = allWritten events ++ allWritten later := by
  induction events with
  | nil => rfl
  | cons e events ih => cases e <;> simp [allWritten, ih]

namespace Ledger

variable {events : List StoreEvent}

theorem applyAll_append (l : Ledger) (events later : List StoreEvent) :
    l.applyAll (events ++ later) = (l.applyAll events).applyAll later := List.foldl_append

/-- **What is permanent after some events.** -/
theorem kept_applyAll (l : Ledger) (events : List StoreEvent) :
    (l.applyAll events).kept =
      l.kept ++ (if nextIsCommit events then l.opened else []) ++ survivors events := by
  induction events generalizing l with
  | nil => simp [applyAll, nextIsCommit, survivors]
  | cons e events ih =>
    show ((l.apply e).applyAll events).kept = _
    rw [ih]
    cases e with
    | wrote es => cases h : nextIsCommit events <;> simp [apply, nextIsCommit, survivors, h]
    | commit => simp [apply, nextIsCommit, survivors]
    | rollback => simp [apply, nextIsCommit, survivors]

/-- Nothing is lost without a rollback. -/
theorem entries_applyAll (l : Ledger) (h : .rollback ∉ events) :
    (l.applyAll events).kept ++ (l.applyAll events).opened =
      l.kept ++ l.opened ++ allWritten events := by
  induction events generalizing l with
  | nil => simp [applyAll, allWritten]
  | cons e events ih =>
    rw [List.mem_cons, not_or] at h
    show ((l.apply e).applyAll events).kept ++ ((l.apply e).applyAll events).opened = _
    rw [ih _ h.2]
    cases e with
    | wrote es => simp [apply, allWritten]
    | commit => simp [apply, allWritten]
    | rollback => exact absurd rfl h.1

end Ledger

theorem kept_empty (events : List StoreEvent) :
    (Ledger.empty.applyAll events).kept = survivors events := by
  rw [Ledger.kept_applyAll]
  simp [Ledger.empty]

/-- Events behind a table without open work. -/
theorem survivors_append {events : List StoreEvent}
    (hclosed : (Ledger.empty.applyAll events).opened = []) (later : List StoreEvent) :
    survivors (events ++ later) = survivors events ++ survivors later := by
  rw [← kept_empty, Ledger.applyAll_append, Ledger.kept_applyAll, hclosed, kept_empty, ite_self,
    List.append_nil]

theorem survivors_of_commits {events : List StoreEvent} (h : .rollback ∉ events)
    (hclosed : (Ledger.empty.applyAll events).opened = []) :
    survivors events = allWritten events := by
  have hall := Ledger.empty.entries_applyAll h
  rw [hclosed, kept_empty, List.append_nil] at hall
  exact hall

theorem survivors_of_rollbacks {events : List StoreEvent} (h : .commit ∉ events) :
    survivors events = [] := by
  have hnext : ∀ {later : List StoreEvent}, .commit ∉ later → nextIsCommit later = false := by
    intro later hlater
    induction later with
    | nil => rfl
    | cons e later ih =>
      rw [List.mem_cons, not_or] at hlater
      cases e with
      | wrote es => exact ih hlater.2
      | commit => exact absurd rfl hlater.1
      | rollback => rfl
  induction events with
  | nil => rfl
  | cons e events ih =>
    rw [List.mem_cons, not_or] at h
    cases e with
    | wrote es => rw [survivors, hnext h.2, ih h.2]; rfl
    | commit => exact absurd rfl h.1
    | rollback => exact ih h.2

/-! ## 6. How blocks end -/

namespace StoringBlock

/-- The failure that ends a block. -/
def failure? (b : StoringBlock) : Option Failure := b.toBlock.failure?

/-- The entries that a block leaves in a store of its own. -/
def written (b : StoringBlock) : List Entry := b.toBlock.written

/-- The entries that a block stores before it ends, also if it ends with a failure. -/
def stored : StoringBlock → List Entry
  | [] => []
  | step :: steps =>
    match step.toStep.writes with
    | .ok es => es ++ stored steps
    | .error _ => []

@[simp] theorem failure?_nil : failure? [] = none := rfl

@[simp] theorem stored_nil : stored [] = [] := rfl

/-- A block without a failure leaves what it stores. -/
theorem written_eq_stored {b : StoringBlock} (h : b.failure? = none) : b.written = b.stored := by
  induction b with
  | nil => rfl
  | cons step steps ih =>
    rw [failure?, toBlock, List.map_cons] at h
    rw [written, toBlock, List.map_cons, stored]
    cases hw : step.toStep.writes with
    | error e =>
      rw [Block.failure?_cons_error hw] at h
      cases h
    | ok es =>
      rw [Block.failure?_cons_ok hw] at h
      rw [Block.written_cons_ok hw h]
      exact congrArg (es ++ ·) (ih h)

theorem written_of_failure {b : StoringBlock} (h : b.failure? ≠ none) : b.written = [] := by
  obtain ⟨e, he⟩ := Option.ne_none_iff_exists'.mp h
  exact Block.written_of_failure he

end StoringBlock

namespace Progress

/-- The failure with which a block ends, or will end. -/
def outcome : Progress → Option Failure
  | .running _ b => b.failure?
  | .failing _ e => some e
  | .ended failure => failure

/-- The entries that a block will still store. -/
def toStore : Progress → List Entry
  | .running _ b => b.stored
  | .failing _ _ => []
  | .ended _ => []

/-- Whether the end of a block is still to come and will act on the connection. -/
def used : Progress → Bool
  | .running used _ => used
  | .failing used _ => used
  | .ended _ => false

/-- The number of moves that a block makes at most. -/
def movesLeft : Progress → Nat
  | .running _ b => b.length + 1
  | .failing _ _ => 1
  | .ended _ => 0

/-- A block commits if it ends normally, and is rolled back otherwise. -/
def Fits (outcome : Option Failure) : StoreEvent → Prop
  | .wrote _ => True
  | .commit => outcome = none
  | .rollback => outcome ≠ none

variable (p : Progress)

/-- **What a move of a block preserves**: how it ends, and what it stores in all. -/
theorem move_preserves :
    p.move.1.outcome = p.outcome ∧ allWritten p.move.2 ++ p.move.1.toStore = p.toStore ∧
      (∀ e ∈ p.move.2, Fits p.outcome e) ∧ p.move.1.movesLeft ≤ p.movesLeft - 1 := by
  cases p with
  | running used b =>
    cases b with
    | nil => cases used <;> simp [move, outcome, toStore, movesLeft, allWritten, Fits]
    | cons step steps =>
      cases hw : step.toStep.writes with
      | error e =>
        have hfail : StoringBlock.failure? (step :: steps) = some e :=
          Block.failure?_cons_error hw _
        simp [move, hw, outcome, hfail, toStore, StoringBlock.stored, movesLeft, allWritten]
      | ok es =>
        have hrest : StoringBlock.failure? (step :: steps) = StoringBlock.failure? steps :=
          Block.failure?_cons_ok hw _
        simp [move, hw, outcome, hrest, toStore, StoringBlock.stored, movesLeft, allWritten, Fits]
  | failing used e => cases used <;> simp [move, outcome, toStore, movesLeft, allWritten, Fits]
  | ended failure => simp [move, outcome, toStore, movesLeft, allWritten]

/-- Open work has a block whose end will act on the connection: the one that moves, or one that was
    there before. -/
theorem used_move (l : Ledger) (h : (l.applyAll p.move.2).opened ≠ []) :
    (l.opened ≠ [] ∧ p.move.1.used = p.used) ∨ p.move.1.used = true := by
  cases p with
  | running used b =>
    cases b with
    | nil =>
      cases used with
      | false => exact .inl ⟨h, rfl⟩
      | true => exact absurd rfl h
    | cons step steps =>
      cases hw : step.toStep.writes with
      | error e =>
        simp only [move, hw] at h ⊢
        exact .inl ⟨h, rfl⟩
      | ok es =>
        simp only [move, hw, Progress.used] at h ⊢
        cases es with
        | nil => exact .inl ⟨by simpa [Ledger.applyAll] using h, by simp⟩
        | cons e es => exact .inr (by simp)
  | failing used e =>
    cases used with
    | false => exact .inl ⟨h, rfl⟩
    | true => exact absurd rfl h
  | ended failure => exact .inl ⟨h, rfl⟩

variable {ps : Side → Progress}

theorem history_append (ps : Side → Progress) (schedule later : List Side) :
    history ps (schedule ++ later) = history ps schedule ++ history (after ps schedule) later := by
  induction schedule generalizing ps with
  | nil => rfl
  | cons side schedule ih =>
    rw [List.cons_append, history, history, ih, List.append_assoc]
    rfl

theorem advance_self (ps : Side → Progress) (side : Side) :
    advance ps side side = (ps side).move.1 := if_pos rfl

theorem advance_of_ne {s side : Side} (h : s ≠ side) (ps : Side → Progress) :
    advance ps side s = ps s := if_neg h

/-- What an advance preserves for every block. -/
theorem outcome_advance (ps : Side → Progress) (side s : Side) :
    (advance ps side s).outcome = (ps s).outcome := by
  rw [advance]
  split
  · rename_i h
    rw [h, (ps side).move_preserves.1]
  · rfl

theorem outcome_after (ps : Side → Progress) (schedule : List Side) (s : Side) :
    (after ps schedule s).outcome = (ps s).outcome := by
  induction schedule generalizing ps with
  | nil => rfl
  | cons side schedule ih => exact (ih (advance ps side)).trans (outcome_advance ps side s)

/-- **The ends in a history** are commits of blocks that end normally and rollbacks of others. -/
theorem fits_history {schedule : List Side} {e : StoreEvent} (h : e ∈ history ps schedule) :
    ∃ s ∈ schedule, Fits (ps s).outcome e := by
  induction schedule generalizing ps with
  | nil => cases h
  | cons side schedule ih =>
    rcases List.mem_append.mp h with h | h
    · exact ⟨side, List.mem_cons_self, (ps side).move_preserves.2.2.1 e h⟩
    · obtain ⟨s, hs, hfits⟩ := ih h
      rw [outcome_advance] at hfits
      exact ⟨s, List.mem_cons_of_mem _ hs, hfits⟩

/-- **Everything that two blocks store is in their history**, in some order. -/
theorem perm_history (ps : Side → Progress) (schedule : List Side) :
    (allWritten (history ps schedule) ++ ((after ps schedule .first).toStore ++
      (after ps schedule .second).toStore)).Perm ((ps .first).toStore ++ (ps .second).toStore) := by
  induction schedule generalizing ps with
  | nil => exact .refl _
  | cons side schedule ih =>
    have hstored := (ps side).move_preserves.2.1
    have hrest := (ih (advance ps side)).append_left (allWritten (ps side).move.2)
    rw [history, allWritten_append, List.append_assoc]
    refine hrest.trans ?_
    cases side with
    | first =>
      rw [advance_self, advance_of_ne (by decide), ← List.append_assoc, hstored]
    | second =>
      rw [advance_self, advance_of_ne (by decide), ← hstored]
      exact List.perm_append_comm_assoc _ _ _

/-- Moves of one block alone store in its order. -/
theorem allWritten_alone {schedule : List Side} {side : Side} (h : ∀ s ∈ schedule, s = side)
    (ps : Side → Progress) :
    allWritten (history ps schedule) ++ (after ps schedule side).toStore = (ps side).toStore := by
  induction schedule generalizing ps with
  | nil => rfl
  | cons s schedule ih =>
    obtain rfl := h s List.mem_cons_self
    have hrest := ih (fun s' hs' => h s' (List.mem_cons_of_mem _ hs')) (advance ps s)
    rw [advance_self] at hrest
    rw [history, allWritten_append, List.append_assoc]
    refine (congrArg (_ ++ ·) hrest).trans ?_
    exact (ps s).move_preserves.2.1

/-- Moves of one block do not change how far another one has come. -/
theorem after_of_not_mem {schedule : List Side} {s : Side} (h : s ∉ schedule)
    (ps : Side → Progress) : after ps schedule s = ps s := by
  induction schedule generalizing ps with
  | nil => rfl
  | cons side schedule ih =>
    rw [List.mem_cons, not_or] at h
    exact (ih h.2 (advance ps side)).trans (advance_of_ne h.1 ps)

/-- **Open work has an end to come.** -/
theorem opened_history {l : Ledger} (h : l.opened ≠ [] → ∃ s, (ps s).used = true)
    (schedule : List Side) (hopen : (l.applyAll (history ps schedule)).opened ≠ []) :
    ∃ s, (after ps schedule s).used = true := by
  induction schedule generalizing ps l with
  | nil => exact h hopen
  | cons side schedule ih =>
    rw [history, Ledger.applyAll_append] at hopen
    refine ih (fun hmoved => ?_) hopen
    rcases (ps side).used_move l hmoved with ⟨hbefore, hsame⟩ | hnow
    · obtain ⟨s, hs⟩ := h hbefore
      refine ⟨s, ?_⟩
      rw [advance]
      split
      · rename_i heq
        rw [hsame, ← heq, hs]
      · exact hs
    · exact ⟨side, by rw [advance_self, hnow]⟩

/-- A block has ended after as many moves as it makes at most. -/
theorem movesLeft_after (ps : Side → Progress) (schedule : List Side) (s : Side) :
    (after ps schedule s).movesLeft ≤ (ps s).movesLeft - schedule.count s := by
  induction schedule generalizing ps with
  | nil => exact Nat.le_refl _
  | cons side schedule ih =>
    refine (ih (advance ps side)).trans ?_
    rw [List.count_cons]
    by_cases h : side = s
    · subst h
      have hmove := (ps side).move_preserves.2.2.2
      rw [advance_self, if_pos (beq_self_eq_true side)]
      omega
    · rw [advance_of_ne (Ne.symm h), if_neg (by simpa using h), Nat.add_zero]

end Progress

/-! ## 7. Two blocks -/

namespace Progress

/-- Two blocks before their first moves. -/
def starts (a b : StoringBlock) : Side → Progress
  | .first => .running false a
  | .second => .running false b

/-- Both blocks have ended. -/
def AllEnded (ps : Side → Progress) : Prop := ∀ s, ∃ failure, ps s = .ended failure

theorem toBlock_eq_ended {p : Progress} {failure : Option Failure}
    (h : p.toBlock = .ended failure) : p = .ended failure := by
  cases p with
  | running used b => cases h
  | failing used e => cases h
  | ended failure' =>
    cases h
    rfl

/-- **When both blocks have ended nothing is open.** -/
theorem closed_of_ended {ps : Side → Progress} {schedule : List Side} {l : Ledger}
    (hl : l.opened = []) (h : ∀ s, (after ps schedule s).used = false) :
    (l.applyAll (history ps schedule)).opened = [] := by
  refine Classical.byContradiction fun hopen => ?_
  obtain ⟨s, hs⟩ := opened_history (fun hne => absurd hl hne) schedule hopen
  rw [h s] at hs
  cases hs

/-- What one block stores while the other one does not move. -/
theorem survivors_alone {ps : Side → Progress} {schedule : List Side} {side : Side}
    (h : ∀ s ∈ schedule, s = side) (hended : ∃ failure, after ps schedule side = .ended failure)
    (hclosed : (Ledger.empty.applyAll (history ps schedule)).opened = []) :
    survivors (history ps schedule) =
      if (ps side).outcome = none then (ps side).toStore else [] := by
  have hfits : ∀ e ∈ history ps schedule, Fits (ps side).outcome e := by
    intro e he
    obtain ⟨s, hs, hfits⟩ := fits_history he
    rwa [h s hs] at hfits
  by_cases hnone : (ps side).outcome = none
  · obtain ⟨failure, hended⟩ := hended
    have hall := allWritten_alone h ps
    rw [hended, toStore, List.append_nil] at hall
    rw [if_pos hnone, ← hall]
    exact survivors_of_commits (fun hmem => hfits _ hmem hnone) hclosed
  · rw [if_neg hnone]
    exact survivors_of_rollbacks fun hmem => hnone (hfits _ hmem)

end Progress

namespace StoringBlock

/-- What some moves of two blocks do to the table. -/
def history (a b : StoringBlock) (schedule : List Side) : List StoreEvent :=
  Progress.history (Progress.starts a b) schedule

variable {a b : StoringBlock} {schedule : List Side}

theorem written_eq (b : StoringBlock) :
    b.written = if b.failure? = none then b.stored else [] := by
  split
  · exact written_eq_stored ‹_›
  · exact written_of_failure ‹_›

open Progress in
/-- **Blocks that end alike** leave what each of them would leave alone. -/
theorem perm_survivors (hended : AllEnded (after (starts a b) schedule))
    (halike : a.failure? = none ↔ b.failure? = none) :
    (survivors (history a b schedule)).Perm (a.written ++ b.written) := by
  have houtcome : ∀ s, (starts a b s).outcome = none ↔ a.failure? = none := by
    intro s
    cases s with
    | first => exact Iff.rfl
    | second => exact halike.symm
  by_cases hnone : a.failure? = none
  · have hclosed : (Ledger.empty.applyAll (history a b schedule)).opened = [] := by
      refine closed_of_ended rfl fun s => ?_
      obtain ⟨failure, hs⟩ := hended s
      rw [hs, Progress.used]
    have hcommits : .rollback ∉ history a b schedule := fun hmem => by
      obtain ⟨s, -, hfits⟩ := fits_history hmem
      exact hfits ((houtcome s).mpr hnone)
    have hperm := perm_history (starts a b) schedule
    obtain ⟨_, hfirst⟩ := hended .first
    obtain ⟨_, hsecond⟩ := hended .second
    rw [hfirst, hsecond, toStore, toStore, List.append_nil, List.append_nil] at hperm
    rw [survivors_of_commits hcommits hclosed, written_eq_stored hnone,
      written_eq_stored (halike.mp hnone)]
    exact hperm
  · have hrollbacks : .commit ∉ history a b schedule := fun hmem => by
      obtain ⟨s, -, hfits⟩ := fits_history hmem
      exact hnone ((houtcome s).mp hfits)
    rw [survivors_of_rollbacks hrollbacks, written_of_failure hnone,
      written_of_failure fun hb => hnone (halike.mpr hb)]
    exact .refl _

open Progress in
/-- **Blocks one after the other** leave what each of them would leave alone. -/
theorem survivors_of_apart {s₁ s₂ : List Side}
    (hended : AllEnded (after (starts a b) (s₁ ++ s₂))) (h₁ : ∀ s ∈ s₁, s = .first)
    (h₂ : ∀ s ∈ s₂, s = .second) :
    survivors (history a b (s₁ ++ s₂)) = a.written ++ b.written := by
  have hnot₁ : .second ∉ s₁ := fun hmem => nomatch h₁ _ hmem
  have hnot₂ : .first ∉ s₂ := fun hmem => nomatch h₂ _ hmem
  have hafter : ∀ s, after (starts a b) (s₁ ++ s₂) s = after (after (starts a b) s₁) s₂ s :=
    fun s => by rw [after, List.foldl_append]; rfl
  have hsecond : after (starts a b) s₁ .second = .running false b := after_of_not_mem hnot₁ _
  have hfirst : ∃ failure, after (starts a b) s₁ .first = .ended failure := by
    rw [← after_of_not_mem hnot₂ (after (starts a b) s₁), ← hafter]
    exact hended .first
  have hclosed₁ : (Ledger.empty.applyAll (Progress.history (starts a b) s₁)).opened = [] := by
    refine closed_of_ended rfl fun s => ?_
    cases s with
    | first =>
      obtain ⟨failure, hs⟩ := hfirst
      rw [hs, Progress.used]
    | second => rw [hsecond, Progress.used]
  have hclosed₂ : (Ledger.empty.applyAll
      (Progress.history (after (starts a b) s₁) s₂)).opened = [] := by
    refine closed_of_ended rfl fun s => ?_
    obtain ⟨failure, hs⟩ := hended s
    rw [← hafter, hs, Progress.used]
  have hsurvivors₁ := survivors_alone h₁ hfirst hclosed₁
  have hsurvivors₂ := survivors_alone h₂ (hafter .second ▸ hended .second) hclosed₂
  rw [hsecond] at hsurvivors₂
  rw [history, history_append, survivors_append hclosed₁, hsurvivors₁, hsurvivors₂, written_eq a,
    written_eq b]
  rfl

end StoringBlock

namespace Overlap

/-- Two blocks before their first moves, on a store whose table holds some entries. -/
def ofBlocks (rows : List (Row Entry)) (ids : Nat → String) (trace : Trace)
    (a b : StoringBlock) : Overlap Unit :=
  start (.ofTable (Entry.tableOf rows) ids) trace a.steps b.steps

variable {rows : List (Row Entry)} {ids : Nat → String} {trace : Trace}
variable {a b : StoringBlock} {schedule : List Side}

theorem run_ofBlocks (rows : List (Row Entry)) (ids : Nat → String) (trace : Trace)
    (a b : StoringBlock) (schedule : List Side) :
    ∃ c trace', (ofBlocks rows ids trace a b).run schedule =
        ⟨c, trace', fun s => (Progress.after (Progress.starts a b) schedule s).toBlock⟩ ∧
      (Ledger.empty.applyAll (a.history b schedule)).Holds rows c := by
  have hempty : Ledger.empty.Holds rows (.ofTable (Entry.tableOf rows) ids) := by
    refine ⟨[], [], rfl, rfl, ?_, ?_⟩
    · rw [List.append_nil]
      rfl
    · rw [List.append_nil, List.append_nil]
      rfl
  have hblocks : (ofBlocks rows ids trace a b).blocks =
      fun s => (Progress.starts a b s).toBlock := by
    funext s
    cases s <;> rfl
  have hrun := run_toBlocks (Progress.starts a b) hempty trace schedule
  rw [← hblocks] at hrun
  exact hrun

theorem allEnded_of_ended (h : ((ofBlocks rows ids trace a b).run schedule).Ended) :
    Progress.AllEnded (Progress.after (Progress.starts a b) schedule) := by
  obtain ⟨c, trace', hrun, _⟩ := run_ofBlocks rows ids trace a b schedule
  intro s
  obtain ⟨failure, hs⟩ := h s
  rw [hrun] at hs
  exact ⟨failure, Progress.toBlock_eq_ended hs⟩

/-- Two blocks have ended once each of them could make all of its moves. -/
theorem ended_of_count (hfirst : a.length + 1 ≤ schedule.count .first)
    (hsecond : b.length + 1 ≤ schedule.count .second) (rows : List (Row Entry))
    (ids : Nat → String) (trace : Trace) :
    ((ofBlocks rows ids trace a b).run schedule).Ended := by
  obtain ⟨c, trace', hrun, _⟩ := run_ofBlocks rows ids trace a b schedule
  intro s
  have hleft : (Progress.after (Progress.starts a b) schedule s).movesLeft = 0 := by
    have hmoves := Progress.movesLeft_after (Progress.starts a b) schedule s
    cases s with
    | first => exact Nat.le_zero.mp (hmoves.trans (Nat.sub_eq_zero_of_le hfirst).le)
    | second => exact Nat.le_zero.mp (hmoves.trans (Nat.sub_eq_zero_of_le hsecond).le)
  rw [hrun]
  show ∃ failure, (Progress.after (Progress.starts a b) schedule s).toBlock = .ended failure
  cases hs : Progress.after (Progress.starts a b) schedule s with
  | running used b => rw [hs] at hleft; cases hleft
  | failing used e => rw [hs] at hleft; cases hleft
  | ended failure => exact ⟨failure, rfl⟩

/-- Each block ends as it would alone. -/
theorem blocks_of_ended (h : ((ofBlocks rows ids trace a b).run schedule).Ended) (s : Side) :
    ((ofBlocks rows ids trace a b).run schedule).blocks s =
      .ended (Progress.starts a b s).outcome := by
  obtain ⟨failure, hs⟩ := allEnded_of_ended h s
  obtain ⟨c, trace', hrun, _⟩ := run_ofBlocks rows ids trace a b schedule
  have houtcome := Progress.outcome_after (Progress.starts a b) schedule s
  rw [hs] at houtcome
  rw [hrun, ← houtcome]
  show (Progress.after (Progress.starts a b) schedule s).toBlock = _
  rw [hs]
  rfl

/-- **The table after both blocks.** -/
theorem connection_of_ended (h : ((ofBlocks rows ids trace a b).run schedule).Ended) :
    ∃ new : List (Row Entry), ∃ ids',
      new.map (·.content) = survivors (a.history b schedule) ∧
      ((ofBlocks rows ids trace a b).run schedule).connection =
        .ofTable (Entry.tableOf (rows ++ new)) ids' := by
  have hclosed : (Ledger.empty.applyAll (a.history b schedule)).opened = [] := by
    refine Progress.closed_of_ended rfl fun s => ?_
    obtain ⟨failure, hs⟩ := allEnded_of_ended h s
    rw [hs, Progress.used]
  obtain ⟨⟨committed, current, ids'⟩, trace', hrun, kept, opened, hkept, hopened, hcommitted,
    hcurrent⟩ := run_ofBlocks rows ids trace a b schedule
  rw [hclosed, List.map_eq_nil_iff] at hopened
  subst hopened
  rw [List.append_nil] at hcurrent
  cases hcommitted
  cases hcurrent
  refine ⟨kept, ids', hkept.trans (kept_empty _), ?_⟩
  rw [hrun]
  rfl

/-- **What two blocks leave in the store**, nested or taking turns in any order of their moves. When
    both have ended, nothing is open: the table holds the earlier rows and one row for each of the
    entries after which the next commit or rollback of a block that used the connection was a
    commit, whichever block wrote them. If the blocks end alike, or if one ends before the other
    begins, these are the entries of the blocks that ended normally. -/
theorem rows_after_blocks (h : ((ofBlocks rows ids trace a b).run schedule).Ended) :
    ((ofBlocks rows ids trace a b).run schedule).blocks .first = .ended a.failure? ∧
    ((ofBlocks rows ids trace a b).run schedule).blocks .second = .ended b.failure? ∧
    (∃ new : List (Row Entry), ∃ ids',
      new.map (·.content) = survivors (a.history b schedule) ∧
      ((ofBlocks rows ids trace a b).run schedule).connection =
        .ofTable (Entry.tableOf (rows ++ new)) ids') ∧
    ((a.failure? = none ↔ b.failure? = none) →
      (survivors (a.history b schedule)).Perm (a.written ++ b.written)) ∧
    ∀ s₁ s₂, schedule = s₁ ++ s₂ → (∀ s ∈ s₁, s = .first) → (∀ s ∈ s₂, s = .second) →
      survivors (a.history b schedule) = a.written ++ b.written := by
  refine ⟨blocks_of_ended h .first, blocks_of_ended h .second, connection_of_ended h,
    StoringBlock.perm_survivors (allEnded_of_ended h), ?_⟩
  rintro s₁ s₂ rfl h₁ h₂
  exact StoringBlock.survivors_of_apart (allEnded_of_ended h) h₁ h₂

/-- An invoice that was recorded for a service provider. -/
def recorded (provider : String) : Entry :=
  ⟨invoice .sending ⟨"busdox-docid-qns", "invoice", by decide, by decide⟩ "NO" (by decide),
    some provider, by decide⟩

/-- The block that stores an entry and ends with some further steps. -/
def storing (e : Entry) (rest : StoringBlock) : StoringBlock := .store e.item e.provider :: rest

/-- Of two nested blocks that both end normally the rows of both stay, in the order in which they
    were stored. -/
theorem rows_after_nested_blocks :
    ∃ rows : List (Row Entry), ∃ ids,
      rows.map (·.content) = [recorded "POP000001", recorded "POP000002"] ∧
      ((ofBlocks [] toString ⟨.empty, []⟩ (storing (recorded "POP000001") [])
        (storing (recorded "POP000002") [])).run
          [.first, .second, .second, .first]).connection =
            .ofTable (Entry.tableOf rows) ids := by
  have hended : ((ofBlocks [] toString ⟨.empty, []⟩ (storing (recorded "POP000001") [])
      (storing (recorded "POP000002") [])).run [.first, .second, .second, .first]).Ended :=
    ended_of_count (by decide) (by decide) [] toString ⟨.empty, []⟩
  obtain ⟨_, _, ⟨rows, ids, hrows, hconnection⟩, _⟩ := rows_after_blocks hended
  exact ⟨rows, ids, hrows, hconnection⟩

/-- A block that nothing interrupts ends in the same way on every table. -/
theorem scope_steps_failure {l : Ledger} {c : Connection} (hc : l.Holds rows c) (b : StoringBlock)
    (t : Trace) : (SessionWork.scope b.steps c t).1.2 = b.failure? := by
  let ps : Side → Progress
    | .first => .ended none
    | .second => .running false b
  let schedule := List.replicate (b.steps.length + 2) Side.second
  obtain ⟨c', t', hrun, _⟩ := run_toBlocks ps hc t schedule
  rw [run_replicate] at hrun
  have hmoves := OpenBlock.moves_start b.steps c t
  have hblock : ((OpenBlock.start b.steps).moves c t (b.steps.length + 2)).1.1 =
      (Progress.after ps schedule .second).toBlock :=
    congrFun (Overlap.mk.inj hrun).2.2 .second
  rw [hmoves] at hblock
  have houtcome := Progress.outcome_after ps schedule .second
  rw [Progress.toBlock_eq_ended hblock.symm] at houtcome
  exact houtcome

/-- **A commit inside a block keeps the rows of the block around it.** The outer block stores an
    entry, has the inner one as a step, and fails then; the inner one stores another entry and ends
    normally. The rows of both stay in the store, which therefore does not hold just the rows of the
    block that ended normally. -/
theorem nested_commit_keeps_rows :
    let outer := storing (recorded "POP000001") [.raise (.raised "late")]
    let inner := storing (recorded "POP000002") []
    let steps : List (SessionWork Unit) :=
      [ItemStore.store (.item (recorded "POP000001").item) (some "POP000001"),
        (do let _ ← SessionWork.within inner.steps),
        throw (.raised "late")]
    let before : StoreHost × Trace :=
      (StoreHost.empty.withEntries .memory [] toString, ⟨.empty, []⟩)
    outer.failure? = some (.raised "late") ∧ inner.failure? = none ∧
      ∃ answers after, ∃ rows : List (Row Entry), ∃ ids,
        StoreHost.scope steps before = (.ok (answers, some (.raised "late")), after) ∧
        after.1.engine = some ⟨.memory, .ofTable (Entry.tableOf rows) ids⟩ ∧
        rows.map (·.content) = [recorded "POP000001", recorded "POP000002"] ∧
        ¬ (rows.map (·.content)).Perm (outer.written ++ inner.written) := by
  intro outer inner steps before
  let store : SessionWork Unit :=
    ItemStore.store (.item (recorded "POP000001").item) (some "POP000001")
  have hempty : Ledger.empty.At [] false
      ⟨.ofTable (Entry.tableOf []) toString, .new, ⟨.empty, []⟩⟩ :=
    ⟨⟨[], [], rfl, rfl, rfl, rfl⟩, rfl⟩
  obtain ⟨s, hstore, hs⟩ :=
    (StoringStep.store (recorded "POP000001").item (some "POP000001")).run_stores _ _ _ _ hempty
  have hbefore : SessionWork.runSteps [store]
      ⟨.ofTable (Entry.tableOf []) toString, .new, ⟨.empty, []⟩⟩ = (([()], none), s) := by
    have hdone : store ⟨.ofTable (Entry.tableOf []) toString, .new, ⟨.empty, []⟩⟩ = (.ok (), s) :=
      hstore
    rw [SessionWork.runSteps, hdone]
    rfl
  have hinner : (SessionWork.scope inner.steps s.connection s.trace).1.2 = none :=
    scope_steps_failure hs.holds inner s.trace
  have hstep : (do let _ ← SessionWork.within inner.steps : SessionWork Unit) s =
      (.ok (), s.beside inner.steps) := bind_of_ok (SessionWork.within_of_none hinner)
  let last : List (SessionWork Unit) := [throw (.raised "late")]
  have hnested := scope_nested last hbefore hstep
  let schedule := nested [store] inner.steps last
  have hended : ((ofBlocks [] toString ⟨.empty, []⟩ outer inner).run schedule).Ended :=
    ended_of_count (by decide) (by decide) [] toString ⟨.empty, []⟩
  have hfirst := blocks_of_ended hended .first
  obtain ⟨new, ids, hnew, hconnection⟩ := connection_of_ended hended
  have hrun : (ofBlocks [] toString ⟨.empty, []⟩ outer inner).run schedule = _ := hnested
  rw [hrun] at hfirst hconnection
  have hscope : SessionWork.scope steps (.ofTable (Entry.tableOf []) toString) ⟨.empty, []⟩ =
      (((SessionWork.scope steps (.ofTable (Entry.tableOf []) toString) ⟨.empty, []⟩).1.1,
        some (.raised "late")), .ofTable (Entry.tableOf new) ids, _) :=
    Prod.ext (Prod.ext rfl (OpenBlock.ended.inj hfirst)) (Prod.ext hconnection rfl)
  replace hnew : new.map (·.content) = [recorded "POP000001", recorded "POP000002"] := hnew
  refine ⟨rfl, rfl, _, _, new, ids, StoreHost.scope_withEntries hscope, rfl, hnew, fun hperm => ?_⟩
  -- two rows are there, and one was stored by the block that ended normally
  rw [hnew] at hperm
  cases hperm.length_eq

end Overlap

end PeppolStatistics
