import PeppolStatistics.Proofs.Store.Block
import PeppolStatistics.Store.Overlap

/-!
# Units of work inside one another

A unit of work as a step of another one is an overlap of the two: the inner one makes all its moves
between two moves of the outer one.

* `OpenBlock.moves_append`: the first steps of a block, and the moves behind them;
* `Overlap.run_replicate`: moves of one block alone;
* `Overlap.scope_nested`: the outer unit of work, run with the inner one as a step.
-/

namespace PeppolStatistics

open SessionWork

variable {α : Type}

namespace SessionState

/-- The session after a unit of work beside it: that one has a session of its own and leaves the
    connection and the log as it has made them. -/
def beside (s : SessionState) (steps : List (SessionWork α)) : SessionState :=
  { s with
    connection := (scope steps s.connection s.trace).2.1
    trace := (scope steps s.connection s.trace).2.2 }

end SessionState

/-- A unit of work that ends normally, as a step. -/
theorem SessionWork.within_of_none {steps : List (SessionWork α)} {s : SessionState}
    (h : (scope steps s.connection s.trace).1.2 = none) :
    within steps s = (.ok (scope steps s.connection s.trace).1.1, s.beside steps) := by
  rw [within]
  simp only [h]
  rfl

/-- **The first steps of a block**, if they succeed, and the moves behind them. -/
theorem OpenBlock.moves_append {before : List (SessionWork α)} {s s' : SessionState}
    {answers : List α} (h : runSteps before s = ((answers, none), s'))
    (rest : List (SessionWork α)) (n : Nat) :
    (running s.session (before ++ rest)).moves s.connection s.trace (before.length + n) =
      ((((running s'.session rest).moves s'.connection s'.trace n).1.1,
          answers ++ ((running s'.session rest).moves s'.connection s'.trace n).1.2),
        ((running s'.session rest).moves s'.connection s'.trace n).2) := by
  induction before generalizing s answers with
  | nil =>
    cases h
    rw [List.length_nil, Nat.zero_add]
    rfl
  | cons step before ih =>
    rw [runSteps] at h
    cases hstep : step s with
    | mk r s₁ =>
      cases r with
      | error e =>
        rw [hstep] at h
        cases h
      | ok a =>
        cases hrun : runSteps before s₁ with
        | mk outcome s₂ =>
          obtain ⟨answers', failure⟩ := outcome
          rw [hstep] at h
          simp only [hrun] at h
          cases h
          rw [List.length_cons, Nat.add_right_comm, List.cons_append,
            moves_succ (move_step hstep (before ++ rest)), ih hrun]
          rfl

namespace Overlap

theorem run_append (o : Overlap α) (schedule later : List Side) :
    o.run (schedule ++ later) = (o.run schedule).run later := List.foldl_append

/-- **Moves of one block alone** are those that it makes when nothing interrupts it. -/
theorem run_replicate (o : Overlap α) (side : Side) (n : Nat) :
    o.run (List.replicate n side) =
      { connection := ((o.blocks side).moves o.connection o.trace n).2.1
        trace := ((o.blocks side).moves o.connection o.trace n).2.2
        blocks := fun s =>
          if s = side then ((o.blocks side).moves o.connection o.trace n).1.1 else o.blocks s } := by
  induction n generalizing o with
  | zero =>
    obtain ⟨connection, trace, blocks⟩ := o
    have hblocks : (fun s => if s = side then blocks side else blocks s) = blocks := by
      funext s
      split
      · rename_i h
        rw [h]
      · rfl
    show Overlap.mk connection trace blocks =
      Overlap.mk connection trace fun s => if s = side then blocks side else blocks s
    rw [hblocks]
  | succ n ih =>
    have hmove := ih (o.move side)
    have hself : (o.move side).blocks side = ((o.blocks side).move o.connection o.trace).1.1 :=
      if_pos rfl
    rw [hself] at hmove
    rw [List.replicate_succ]
    refine (hmove : (o.move side).run _ = _).trans ?_
    rw [OpenBlock.moves_succ rfl n, Overlap.mk.injEq]
    refine ⟨rfl, rfl, funext fun s => ?_⟩
    split
    · rfl
    · rename_i hother
      exact if_neg hother

/-- The moves of two blocks of which the second one runs inside the first one: all its moves come
    behind some steps of the first one. -/
def nested (before inner after : List (SessionWork α)) : List Side :=
  List.replicate before.length .first ++ List.replicate (inner.length + 2) .second ++
    List.replicate (after.length + 2) .first

/-- **A unit of work with another one as a step** is an overlap of the two. The outer one has some
    steps that succeed, then the inner one, which it goes on after, and then its other steps: it
    ends as the first block of the overlap, and leaves the same connection and the same log. -/
theorem scope_nested {before inner : List (SessionWork α)} {step : SessionWork α}
    {answers : List α} {a : α} {c : Connection} {t : Trace} {s : SessionState}
    (after : List (SessionWork α))
    (hbefore : runSteps before ⟨c, .new, t⟩ = ((answers, none), s))
    (hstep : step s = (.ok a, s.beside inner)) :
    (start c t (before ++ after) inner).run (nested before inner after) =
      { connection := (scope (before ++ step :: after) c t).2.1
        trace := (scope (before ++ step :: after) c t).2.2
        blocks
          | .first => .ended (scope (before ++ step :: after) c t).1.2
          | .second => .ended (scope inner s.connection s.trace).1.2 } := by
  let rest := (OpenBlock.running s.session after).moves (s.beside inner).connection
    (s.beside inner).trace (after.length + 2)
  -- the outer unit of work makes its first steps, the inner one as a step, and the rest
  have hall := OpenBlock.moves_start (before ++ step :: after) c t
  have hparts := OpenBlock.moves_append hbefore (step :: after) (after.length + 2 + 1)
  have hlength : before.length + (after.length + 2 + 1) =
      (before ++ step :: after).length + 2 := by
    rw [List.length_append, List.length_cons]
    omega
  rw [hlength, OpenBlock.moves_succ (OpenBlock.move_step hstep after)] at hparts
  have hends := hall.symm.trans hparts
  have hblock : .ended (scope (before ++ step :: after) c t).1.2 = rest.1.1 :=
    congrArg (·.1.1) hends
  have hafter : (scope (before ++ step :: after) c t).2 = rest.2 := congrArg (·.2) hends
  -- so do the two blocks of the overlap, one after the other
  have hfirst : (start c t (before ++ after) inner).run (List.replicate before.length .first) =
      { connection := s.connection
        trace := s.trace
        blocks
          | .first => .running s.session after
          | .second => .start inner } := by
    have hmoves := OpenBlock.moves_append hbefore after 0
    rw [run_replicate, Overlap.mk.injEq]
    refine ⟨congrArg (·.2.1) hmoves, congrArg (·.2.2) hmoves, funext fun side => ?_⟩
    cases side with
    | first => exact congrArg (·.1.1) hmoves
    | second => rfl
  rw [nested, run_append, run_append, hfirst, run_replicate, run_replicate, Overlap.mk.injEq]
  have hinner := OpenBlock.moves_start inner s.connection s.trace
  simp only [hinner]
  refine ⟨congrArg (·.1) hafter.symm, congrArg (·.2) hafter.symm, funext fun side => ?_⟩
  cases side with
  | first => exact hblock.symm
  | second => rfl

end Overlap

end PeppolStatistics
