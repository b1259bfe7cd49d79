import PeppolStatistics.Proofs.Checks
import PeppolStatistics.Store.Engine

/-!
# Single calls on a host

What one call on the host of the store does, said as an equation: work on the engine if one is set
up, and the two ways in which setting up an engine may end.

* `StoreHost.scope_eq`: a unit of work goes on the connection of the engine;
* `StoreHost.initialiseWith_of_ok`, `StoreHost.initialiseWith_of_error`: a new engine, or the old
  one without its connection and no word in the log;
* `StoreHost.initialiseWith_eq_error`: a call fails for its database only.
-/

namespace PeppolStatistics

namespace StoreHost

variable {α γ δ : Type} {h : StoreHost} {e : Engine} {t : Trace} {url echo : Value}

/-! ## 1. Work on the engine -/

/-- Work whose answer is made into another one. -/
theorem bind_pure_eq (work : Work γ) (f : γ → δ) (s : StoreHost × Trace) :
    (work >>= fun a => pure (f a)) s = ((work s).1.map f, (work s).2) := by
  cases hwork : work s with
  | mk r s' =>
    cases r with
    | error e => exact bind_of_error hwork
    | ok a => exact bind_of_ok hwork

theorem current_eq (he : h.engine = some e) (t : Trace) : current (h, t) = (.ok e, (h, t)) := by
  have hget : (get : Work (StoreHost × Trace)) (h, t) = (.ok (h, t), (h, t)) := rfl
  unfold current
  rw [bind_of_ok hget]
  dsimp only
  rw [he]
  rfl

theorem current_eq_error (he : h.engine = none) (t : Trace) :
    current (h, t) = (.error .notInitialised, (h, t)) := by
  have hget : (get : Work (StoreHost × Trace)) (h, t) = (.ok (h, t), (h, t)) := rfl
  unfold current
  rw [bind_of_ok hget]
  dsimp only
  rw [he]
  rfl

/-- The host with another connection of its engine. -/
def withConnection (h : StoreHost) (e : Engine) (c : Connection) : StoreHost :=
  { h with engine := some { e with connection := c } }

theorem setConnection_eq (he : h.engine = some e) (c : Connection) (t : Trace) :
    setConnection c (h, t) = (.ok (), (h.withConnection e c, t)) := by
  show (Except.ok (), ({ h with engine := h.engine.map _ }, t)) = _
  rw [he]
  rfl

/-- A unit of work goes on the connection of the engine. -/
theorem scope_eq (he : h.engine = some e) (steps : List (SessionWork α)) (t : Trace) :
    scope steps (h, t) =
      (.ok (SessionWork.scope steps e.connection t).1,
        (h.withConnection e (SessionWork.scope steps e.connection t).2.1,
          (SessionWork.scope steps e.connection t).2.2)) := by
  have hget : (get : Work (StoreHost × Trace)) (h, t) = (.ok (h, t), (h, t)) := rfl
  unfold scope
  rw [bind_of_ok (current_eq he t), bind_of_ok hget]
  dsimp only
  rw [bind_of_ok (setConnection_eq he _ t)]
  rfl

theorem scope_eq_error (he : h.engine = none) (steps : List (SessionWork α)) (t : Trace) :
    scope steps (h, t) = (.error .notInitialised, (h, t)) :=
  bind_of_error (current_eq_error he t)

/-- A new engine is on the database of the URL, as the old one left it. -/
theorem initialiseWith_of_ok {u : DatabaseUrl} (hu : databaseOf url echo = .ok u) (h : StoreHost)
    (t : Trace) :
    ∃ t', initialiseWith url echo (h, t) =
      (.ok (), ({ h.released with engine := some ⟨u, h.released.connect u⟩ }, t')) := by
  unfold initialiseWith
  rw [hu]
  exact ⟨_, rfl⟩

/-- **What a failing call leaves behind**: the old engine without its connection, and no word in
    the log. -/
theorem initialiseWith_of_error {f : Failure} (hf : databaseOf url echo = .error f) (h : StoreHost)
    (t : Trace) : initialiseWith url echo (h, t) = (.error f, (h.released, t)) := by
  unfold initialiseWith
  rw [hf]
  rfl

theorem initialiseWith_eq_error {f : Failure} {after : StoreHost × Trace}
    (hfails : initialiseWith url echo (h, t) = (.error f, after)) :
    databaseOf url echo = .error f ∧ after = (h.released, t) := by
  cases hdatabase : databaseOf url echo with
  | error f' =>
    rw [initialiseWith_of_error hdatabase] at hfails
    cases hfails
    exact ⟨rfl, rfl⟩
  | ok u =>
    obtain ⟨t', hok⟩ := initialiseWith_of_ok hdatabase h t
    rw [hok] at hfails
    cases hfails

end StoreHost

end PeppolStatistics
