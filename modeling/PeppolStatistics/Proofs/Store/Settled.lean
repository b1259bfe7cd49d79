import PeppolStatistics.Proofs.Store.Block
import PeppolStatistics.Store.Items

/-!
# Sessions leave nothing open

Between two units of work everything that is seen on the connection is permanent
(`Connection.Settled`). The invariant within a unit of work is weaker: as long as the session did
not use the connection there is nothing open (`SessionState.Tidy`). Work keeps it if it marks the
connection as used whenever it writes (`SessionWork.Orderly`).

* `Orderly.bind`: orderly work goes on with orderly work;
* `orderly_storeAll`, `orderly_load`, `orderly_report` and their siblings: every call of the store
  is orderly;
* `SessionWork.settled_scope`: a unit of work of orderly steps leaves nothing open, whether it is
  committed or rolled back;
* `SessionWork.orderly_within`: as a step of another one it is orderly work.
-/

namespace PeppolStatistics

/-! ## 1. The invariant -/

/-- Everything that is seen on a connection is permanent. -/
def Connection.Settled (c : Connection) : Prop := c.current = c.committed

theorem Connection.settled_ofTable (t : ItemTable) (ids : Nat → String) :
    (ofTable t ids).Settled := rfl

theorem Connection.settled_fresh (ids : Nat → String) : (fresh ids).Settled := rfl

theorem Connection.settled_commit (c : Connection) : c.commit.Settled := rfl

theorem Connection.settled_rollback (c : Connection) : c.rollback.Settled := rfl

/-- A connection with nothing open stays as it is when it is rolled back. -/
theorem Connection.rollback_of_settled {c : Connection} (h : c.Settled) : c.rollback = c := by
  obtain ⟨committed, current, ids⟩ := c
  cases h
  rfl

/-- A session that did not use the connection found it with nothing open. -/
def SessionState.Tidy (s : SessionState) : Prop :=
  s.session.began = false → s.connection.Settled

theorem SessionState.tidy_of_began {s : SessionState} (h : s.session.began = true) : s.Tidy :=
  fun hnew => absurd (h.symm.trans hnew) (by decide)

namespace SessionWork

variable {α β : Type} {work : SessionWork α} {next : α → SessionWork β} {s : SessionState}

/-- **Orderly work**: it marks the connection as used before it leaves anything open on it. -/
def Orderly (work : SessionWork α) : Prop := ∀ s, s.Tidy → (work s).2.Tidy

theorem orderly_pure (a : α) : Orderly (pure a) := fun _ hs => hs

theorem orderly_throw (e : Failure) : Orderly (throw e : SessionWork α) := fun _ hs => hs

theorem orderly_get : Orderly (get : SessionWork SessionState) := fun _ hs => hs

/-- **Orderly work goes on with orderly work.** -/
theorem Orderly.bind (h : Orderly work) (hnext : ∀ a, Orderly (next a)) :
    Orderly (work >>= next) := by
  intro s hs
  have hafter : (work s).2.Tidy := h s hs
  cases hwork : work s with
  | mk r s' =>
    rw [hwork] at hafter
    cases r with
    | error e =>
      rw [bind_of_error hwork]
      exact hafter
    | ok a =>
      rw [bind_of_ok hwork]
      exact hnext a s' hafter

/-- Orderly work whose answer is made into another one. -/
theorem Orderly.map (h : Orderly work) (f : α → β) : Orderly (work >>= fun a => pure (f a)) :=
  h.bind fun a => orderly_pure (f a)

theorem orderly_ofTraced (work : Traced α) : Orderly (ofTraced work) := fun _ hs => hs

theorem orderly_ofExcept (r : Except Failure α) : Orderly (ofExcept r) := by
  cases r with
  | error e => exact orderly_throw e
  | ok a => exact orderly_pure a

theorem Orderly.attempt (h : Orderly work) : Orderly work.attempt := fun s hs => h s hs

theorem orderly_add (rs : List StoredRecord) : Orderly (add rs) := fun _ hs => hs

theorem orderly_flush : Orderly flush := by
  intro s hs
  unfold flush
  split
  · exact hs
  · split
    · exact hs
    · split
      · exact SessionState.tidy_of_began rfl
      · exact SessionState.tidy_of_began rfl

/-- Reading uses the connection, so that nothing need be known of it afterwards. -/
theorem orderly_read : Orderly read := by
  refine orderly_flush.bind fun _ => orderly_get.bind fun s => ?_
  dsimp only
  split
  · exact orderly_throw _
  · refine Orderly.bind (fun _ _ => ?_) fun _ => orderly_ofExcept _
    exact SessionState.tidy_of_began rfl

end SessionWork

/-! ## 2. The calls of the store -/

namespace ItemStore

open SessionWork

variable {α : Type}

theorem orderly_asBackend (operation : BackendOperation) {work : SessionWork α}
    (h : Orderly work) : Orderly (asBackend operation work) := by
  intro s hs
  have hafter := h s hs
  unfold asBackend
  split
  · rename_i hwork
    rw [hwork] at hafter
    exact hafter
  · exact hafter

theorem orderly_storeAll (items : Value) (provider : Option String) :
    Orderly (storeAll items provider) := by
  unfold storeAll
  split
  · refine (orderly_ofExcept _).bind fun records => ?_
    have hwrite : Orderly (do
        SessionWork.add records
        SessionWork.flush : SessionWork Unit) := (orderly_add records).bind fun _ => orderly_flush
    refine (orderly_asBackend .store hwrite).bind fun _ => ?_
    exact (orderly_ofTraced _).map _
  · exact orderly_throw _

theorem orderly_store (item : Value) (provider : Option String) : Orderly (store item provider) :=
  (orderly_storeAll _ provider).map _

variable (p : ReportPeriod) (provider : Option String)

theorem orderly_itemsOf : Orderly (itemsOf p provider) :=
  (orderly_read.map _).bind fun _ => orderly_ofExcept _

theorem orderly_load : Orderly (load p provider) := by
  refine orderly_asBackend .load ((orderly_itemsOf p provider).bind fun items => ?_)
  exact (orderly_ofTraced _).map _

theorem orderly_loadCollection : Orderly (loadCollection p provider) := by
  refine (orderly_load p provider).bind fun items => ?_
  exact (orderly_ofTraced _).map _

theorem orderly_count : Orderly (count p provider) :=
  orderly_asBackend .count (orderly_read.map _)

theorem orderly_forEach {σ : Type} (consume : σ → Item → σ) (start : σ) :
    Orderly (forEach p provider consume start) :=
  (orderly_itemsOf p provider).map _

theorem orderly_report (kind : ReportKind) (reporter : String) :
    Orderly (report kind p provider reporter) :=
  (orderly_loadCollection p provider).bind fun _ => orderly_ofTraced _

end ItemStore

/-! ## 3. Units of work -/

namespace SessionWork

variable {α : Type} {s : SessionState}

theorem tidy_runSteps {steps : List (SessionWork α)} (hsteps : ∀ step ∈ steps, Orderly step)
    (hs : s.Tidy) : (runSteps steps s).2.Tidy := by
  induction steps generalizing s with
  | nil => exact hs
  | cons step steps ih =>
    have hafter : (step s).2.Tidy := hsteps step List.mem_cons_self s hs
    unfold runSteps
    split
    · rename_i hstep
      rw [hstep] at hafter
      exact ih (fun w hw => hsteps w (List.mem_cons_of_mem _ hw)) hafter
    · rename_i hstep
      rw [hstep] at hafter
      exact hafter

/-- A rollback leaves nothing open: either the session used the connection and what it left is
    discarded, or it found nothing open. -/
theorem settled_abandon (e : Failure) (hs : s.Tidy) : (abandon e s).2.connection.Settled := by
  show (if s.session.began then s.connection.rollback else s.connection).Settled
  cases hbegan : s.session.began with
  | true => exact s.connection.settled_rollback
  | false => exact hs hbegan

theorem orderly_commit : Orderly commit := by
  refine orderly_flush.bind fun _ => orderly_get.bind fun s => ?_
  dsimp only
  split
  · exact orderly_throw _
  · split
    · exact fun _ _ _ => s.connection.settled_commit
    · exact orderly_pure _

/-- A commit that does not fail leaves nothing open. -/
theorem settled_commit (hs : s.Tidy) {s' : SessionState} (h : commit s = (.ok (), s')) :
    s'.connection.Settled := by
  have hafter : (flush s).2.Tidy := orderly_flush s hs
  unfold commit at h
  cases hflush : flush s with
  | mk r s₁ =>
    rw [hflush] at hafter
    cases r with
    | error e =>
      rw [bind_of_error hflush] at h
      cases h
    | ok _ =>
      have hget : (get : SessionWork SessionState) s₁ = (.ok s₁, s₁) := rfl
      rw [bind_of_ok hflush, bind_of_ok hget] at h
      dsimp only at h
      split at h
      · cases h
      · split at h
        · cases h
          exact s₁.connection.settled_commit
        · rename_i hbegan
          cases h
          exact hafter (Bool.eq_false_iff.mpr hbegan)

/-- The end of a unit of work leaves nothing open. -/
theorem settled_finish (failure : Option Failure) (hs : s.Tidy) :
    (finish failure s).2.1.Settled := by
  unfold finish
  split
  · rename_i e
    exact settled_abandon e hs
  · split
    · rename_i hcommit
      exact settled_commit hs hcommit
    · rename_i e s' hcommit
      have hafter : (commit s).2.Tidy := orderly_commit s hs
      rw [hcommit] at hafter
      exact settled_abandon e hafter

/-- **A unit of work leaves nothing open.** -/
theorem settled_scope {steps : List (SessionWork α)} (hsteps : ∀ step ∈ steps, Orderly step)
    {c : Connection} (hc : c.Settled) (t : Trace) : (scope steps c t).2.1.Settled := by
  rw [scope_eq]
  exact settled_finish _ (tidy_runSteps hsteps fun _ => hc)

/-- **A unit of work is orderly as a step of another one.** -/
theorem orderly_within {steps : List (SessionWork α)} (hsteps : ∀ step ∈ steps, Orderly step) :
    Orderly (within steps) := fun s hs hnew => settled_scope hsteps (hs hnew) s.trace

end SessionWork

end PeppolStatistics
