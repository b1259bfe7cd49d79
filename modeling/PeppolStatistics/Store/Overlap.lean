import PeppolStatistics.Store.Block

/-!
# Units of work side by side

Two units of work may be open at once, one begun inside the other or both taking turns. Each has a
session of its own, and all sessions work on the one connection. Between any two moves of the one
the other may make some of its own.
-/

namespace PeppolStatistics

/-- The two units of work. -/
inductive Side where
  | first
  | second
deriving DecidableEq, Repr

/-- Two units of work on one connection. -/
structure Overlap (α : Type) where
  connection : Connection
  trace : Trace
  blocks : Side → OpenBlock α

namespace Overlap

variable {α : Type}

/-- Two units of work before their first steps. -/
def start (c : Connection) (t : Trace) (first second : List (SessionWork α)) : Overlap α where
  connection := c
  trace := t
  blocks
    | .first => .start first
    | .second => .start second

/-- The next move of one of the two. -/
def move (o : Overlap α) (side : Side) : Overlap α :=
  let ((b, _), c, t) := (o.blocks side).move o.connection o.trace
  { connection := c, trace := t, blocks := fun s => if s = side then b else o.blocks s }

/-- Moves of the two in a given order. -/
def run (o : Overlap α) (schedule : List Side) : Overlap α := schedule.foldl move o

/-- Whether both have ended. -/
def Ended (o : Overlap α) : Prop := ∀ side, ∃ failure, o.blocks side = .ended failure

end Overlap

end PeppolStatistics
