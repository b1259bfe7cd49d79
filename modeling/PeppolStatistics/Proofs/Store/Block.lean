import PeppolStatistics.Proofs.Checks
import PeppolStatistics.Store.Block

/-!
# Units of work, step by step

A unit of work that nothing interrupts is its steps up to a failure (`SessionWork.runSteps`), and
then its end (`SessionWork.finish`).

* `OpenBlock.moves_running`: the moves of a block, by induction on the steps to be made;
* `SessionWork.scope_eq`: the whole unit of work.
-/

namespace PeppolStatistics

namespace SessionWork

variable {α : Type}

/-- Runs some steps until one fails: the answers of those that succeeded, and the failure. -/
def runSteps : List (SessionWork α) → SessionState → (List α × Option Failure) × SessionState
  | [], s => (([], none), s)
  | step :: steps, s =>
    match step s with
    | (.ok a, s) =>
      let ((as, failure), s) := runSteps steps s
      ((a :: as, failure), s)
    | (.error e, s) => (([], some e), s)

/-- How a unit of work ends after some steps were made: by a commit, or by a rollback. -/
def finish (failure : Option Failure) (s : SessionState) : Option Failure × Connection × Trace :=
  match failure with
  | some e => (some e, (abandon e s).2.connection, (abandon e s).2.trace)
  | none =>
    match commit s with
    | (.ok (), s) => (none, s.connection, s.trace)
    | (.error e, s) => (some e, (abandon e s).2.connection, (abandon e s).2.trace)

end SessionWork

/-! ## 1. Moves -/

namespace OpenBlock

open SessionWork

variable {α : Type}

variable {s s' : SessionState} {step : SessionWork α} {a : α} {e : Failure}

theorem move_step (h : step s = (.ok a, s')) (steps : List (SessionWork α)) :
    (running s.session (step :: steps)).move s.connection s.trace =
      ((running s'.session steps, some a), s'.connection, s'.trace) := by
  rw [move, h]

theorem move_step_error (h : step s = (.error e, s')) (steps : List (SessionWork α)) :
    (running s.session (step :: steps)).move s.connection s.trace =
      ((failing s'.session e, none), s'.connection, s'.trace) := by
  rw [move, h]

theorem move_commit (h : commit s = (.ok (), s')) :
    (running s.session ([] : List (SessionWork α))).move s.connection s.trace =
      ((ended none, none), s'.connection, s'.trace) := by
  rw [move, h]

theorem move_commit_error (h : commit s = (.error e, s')) :
    (running s.session ([] : List (SessionWork α))).move s.connection s.trace =
      ((failing s'.session e, none), s'.connection, s'.trace) := by
  rw [move, h]

theorem move_failing (s : SessionState) (e : Failure) :
    (failing s.session e : OpenBlock α).move s.connection s.trace =
      ((ended (some e), none), (abandon e s).2.connection, (abandon e s).2.trace) := rfl

/-- The first move, and those after it. -/
theorem moves_succ {b b' : OpenBlock α} {c c' : Connection} {t t' : Trace} {answer : Option α}
    (h : b.move c t = ((b', answer), c', t')) (n : Nat) :
    b.moves c t (n + 1) =
      (((b'.moves c' t' n).1.1, answer.toList ++ (b'.moves c' t' n).1.2),
        (b'.moves c' t' n).2) := by
  rw [moves, h]

theorem moves_ended (failure : Option Failure) (c : Connection) (t : Trace) (n : Nat) :
    (ended failure : OpenBlock α).moves c t n = ((ended failure, []), c, t) := by
  induction n with
  | zero => rfl
  | succ n ih => rw [moves_succ (rfl : (ended failure : OpenBlock α).move c t = _), ih]; rfl

/-- After a failure a block is rolled back, whatever else it would have done. -/
theorem moves_failing (s : SessionState) (e : Failure) (n : Nat) :
    (failing s.session e : OpenBlock α).moves s.connection s.trace (n + 1) =
      ((ended (some e), []), (abandon e s).2.connection, (abandon e s).2.trace) := by
  rw [moves_succ (move_failing s e), moves_ended]
  rfl

/-- **The moves of a block** are its steps up to a failure, and its end. -/
theorem moves_running (steps : List (SessionWork α)) (s : SessionState) :
    (running s.session steps).moves s.connection s.trace (steps.length + 2) =
      ((ended (finish (runSteps steps s).1.2 (runSteps steps s).2).1, (runSteps steps s).1.1),
        (finish (runSteps steps s).1.2 (runSteps steps s).2).2) := by
  induction steps generalizing s with
  | nil =>
    rw [runSteps, finish]
    cases hcommit : commit s with
    | mk r s' =>
      cases r with
      | ok _ =>
        rw [List.length_nil, moves_succ (move_commit hcommit), moves_ended]
        rfl
      | error e =>
        rw [List.length_nil, moves_succ (move_commit_error hcommit), moves_failing]
        rfl
  | cons step steps ih =>
    rw [runSteps, List.length_cons]
    cases hstep : step s with
    | mk r s' =>
      cases r with
      | ok a =>
        rw [moves_succ (move_step hstep steps), ih s']
        rfl
      | error e =>
        rw [moves_succ (move_step_error hstep steps), moves_failing]
        rfl

end OpenBlock

/-! ## 2. Units of work -/

namespace SessionWork

variable {α : Type}

/-- **A unit of work** is its steps up to a failure, and its end. -/
theorem scope_eq (steps : List (SessionWork α)) (c : Connection) (t : Trace) :
    scope steps c t =
      (((runSteps steps ⟨c, .new, t⟩).1.1,
          (finish (runSteps steps ⟨c, .new, t⟩).1.2 (runSteps steps ⟨c, .new, t⟩).2).1),
        (finish (runSteps steps ⟨c, .new, t⟩).1.2 (runSteps steps ⟨c, .new, t⟩).2).2) := by
  have hmoves := OpenBlock.moves_running steps ⟨c, .new, t⟩
  rw [scope, OpenBlock.start, hmoves]
  rfl

end SessionWork

/-- All moves of a unit of work that nothing interrupts. -/
theorem OpenBlock.moves_start {α : Type} (steps : List (SessionWork α)) (c : Connection)
    (t : Trace) :
    (start steps).moves c t (steps.length + 2) =
      ((ended (SessionWork.scope steps c t).1.2, (SessionWork.scope steps c t).1.1),
        (SessionWork.scope steps c t).2) := by
  rw [SessionWork.scope_eq]
  exact moves_running steps ⟨c, .new, t⟩

end PeppolStatistics
