import PeppolStatistics.Store.Connection

/-!
# Units of work

A unit of work makes some steps in a session of its own, one after the other. A failure of a step
ends it by a rollback; after the last step it ends by a commit. A step may itself be a unit of
work, in another session on the same connection.
-/

namespace PeppolStatistics

/-! ## 1. A unit of work under way -/

/-- A unit of work under way. -/
inductive OpenBlock (α : Type) where
  /-- The session, and the steps that are still to be made. -/
  | running (session : Session) (steps : List (SessionWork α))
  /-- A failure has left the block; the session is not rolled back yet. -/
  | failing (session : Session) (e : Failure)
  | ended (failure : Option Failure)

namespace OpenBlock

variable {α : Type}

/-- A unit of work before its first step. -/
def start (steps : List (SessionWork α)) : OpenBlock α := .running .new steps

/-- The next move of a unit of work: a step, or its end. A step that succeeds has an answer. -/
def move (c : Connection) (t : Trace) :
    OpenBlock α → (OpenBlock α × Option α) × Connection × Trace
  | .running session (step :: steps) =>
    match step ⟨c, session, t⟩ with
    | (.ok a, s) => ((.running s.session steps, some a), s.connection, s.trace)
    | (.error e, s) => ((.failing s.session e, none), s.connection, s.trace)
  | .running session [] =>
    match SessionWork.commit ⟨c, session, t⟩ with
    | (.ok _, s) => ((.ended none, none), s.connection, s.trace)
    | (.error e, s) => ((.failing s.session e, none), s.connection, s.trace)
  | .failing session e =>
    let (_, s) := SessionWork.abandon e ⟨c, session, t⟩
    ((.ended (some e), none), s.connection, s.trace)
  | .ended failure => ((.ended failure, none), c, t)

/-- Some moves of a unit of work, and the answers of their steps. -/
def moves (b : OpenBlock α) (c : Connection) (t : Trace) :
    Nat → (OpenBlock α × List α) × Connection × Trace
  | 0 => ((b, []), c, t)
  | n + 1 =>
    let ((b, answer), c, t) := b.move c t
    let ((b, answers), c, t) := b.moves c t n
    ((b, answer.toList ++ answers), c, t)

/-- The failure that has left a block. -/
def failure? : OpenBlock α → Option Failure
  | .running _ _ => none
  | .failing _ e => some e
  | .ended failure => failure

end OpenBlock

/-! ## 2. Units of work -/

namespace SessionWork

variable {α : Type}

/-- One unit of work: some steps in a new session, which is committed if all of them succeed.
    Otherwise it is rolled back. The answers are those of the steps that succeeded. -/
def scope (steps : List (SessionWork α)) (c : Connection) (t : Trace) :
    (List α × Option Failure) × Connection × Trace :=
  -- each step is one move, and the end takes at most two: a commit that fails is rolled back
  let ((b, answers), c, t) := (OpenBlock.start steps).moves c t (steps.length + 2)
  ((answers, b.failure?), c, t)

/-- A unit of work as one step of another one: it has a session of its own on the same connection,
    and its failure is a failure of the step. -/
def within (steps : List (SessionWork α)) : SessionWork (List α) := fun s =>
  let ((answers, failure), connection, trace) := scope steps s.connection s.trace
  (match failure with
    | none => .ok answers
    | some e => .error e,
    { s with connection, trace })

end SessionWork

end PeppolStatistics
