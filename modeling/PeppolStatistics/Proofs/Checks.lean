import Mathlib.Data.List.Forall2
import Mathlib.Data.List.Perm.Basic

/-!
# Chains of checks

Work that may fail is written as a chain in `Except`, with or without a state. These are the
equations by which such a chain is followed: a step that succeeds hands its result on, a step that
fails ends the chain, and a step for every element of a list succeeds if each of them does.
-/

namespace PeppolStatistics

variable {ε α β : Type}

@[simp] theorem ok_bind (a : α) (next : α → Except ε β) : (Except.ok a >>= next) = next a := rfl

@[simp] theorem error_bind (e : ε) (next : α → Except ε β) :
    ((Except.error e : Except ε α) >>= next) = .error e := rfl

/-- A chain that succeeds has a first step that succeeds. -/
theorem bind_eq_ok {r : Except ε α} {next : α → Except ε β} {b : β} :
    (r >>= next) = .ok b ↔ ∃ a, r = .ok a ∧ next a = .ok b := by
  cases r with
  | error e => simp
  | ok a => simp

theorem map_eq_ok {r : Except ε α} {f : α → β} {b : β} :
    r.map f = .ok b ↔ ∃ a, r = .ok a ∧ f a = b := by
  cases r with
  | error e => simp [Except.map]
  | ok a => simp [Except.map]

theorem map_eq_error {r : Except ε α} {f : α → β} {e : ε} : r.map f = .error e ↔ r = .error e := by
  cases r with
  | error e' => simp [Except.map]
  | ok a => simp [Except.map]

theorem mapError_eq_ok {r : Except ε α} {f : ε → ε} {a : α} : r.mapError f = .ok a ↔ r = .ok a := by
  cases r with
  | error e => exact ⟨(nomatch ·), (nomatch ·)⟩
  | ok b => rfl

/-- Work that can fail in one way only does so exactly if the case is given. -/
theorem eq_error_iff_of_cases {r : Except ε α} {p : Prop} {x e : ε} (hfails : p → r = .error x)
    (hok : ¬ p → ∃ a, r = .ok a) : r = .error e ↔ p ∧ e = x := by
  by_cases h : p
  · rw [hfails h, Except.error.injEq, and_iff_right h, eq_comm]
  · obtain ⟨a, ha⟩ := hok h
    rw [ha]
    exact iff_of_false (by simp) fun h' => h h'.1

/-- A step for every element of a list succeeds exactly if it does so on each of them. -/
theorem mapM_eq_ok_iff {f : α → Except ε β} {as : List α} {bs : List β} :
    as.mapM f = .ok bs ↔ List.Forall₂ (fun a b => f a = .ok b) as bs := by
  induction as generalizing bs with
  | nil =>
    rw [List.forall₂_nil_left_iff]
    exact ⟨fun h => (Except.ok.inj h).symm, fun h => h ▸ rfl⟩
  | cons a as ih =>
    rw [List.mapM_cons, List.forall₂_cons_left_iff]
    cases ha : f a with
    | error e => simp
    | ok b =>
      rw [ok_bind]
      cases hrest : as.mapM f with
      | error e =>
        rw [hrest] at ih
        simp [← ih]
      | ok bs' =>
        rw [hrest] at ih
        simp only [ok_bind, ← ih, Except.ok.injEq]
        exact ⟨fun h => ⟨b, bs', rfl, rfl, (Except.ok.inj h).symm⟩,
          fun ⟨c, cs, hc, hcs, h⟩ => by rw [h, ← hc, ← hcs]; rfl⟩

/-- What a step for every element of a list makes, it makes of one of them. -/
theorem exists_of_mem_mapM {f : α → Except ε β} {as : List α} {bs : List β} {b : β}
    (h : as.mapM f = .ok bs) (hb : b ∈ bs) : ∃ a ∈ as, f a = .ok b := by
  have hall := mapM_eq_ok_iff.mp h
  clear h
  induction hall with
  | nil => cases hb
  | @cons a b' as bs hab _ ih =>
    rcases List.mem_cons.mp hb with rfl | hb
    · exact ⟨a, List.mem_cons_self, hab⟩
    · obtain ⟨a', ha', hab'⟩ := ih hb
      exact ⟨a', List.mem_cons_of_mem a ha', hab'⟩

/-- Steps that all succeed make a list of what they make. -/
theorem mapM_eq_ok {f : α → Except ε β} {g : α → β} {as : List α} (h : ∀ a ∈ as, f a = .ok (g a)) :
    as.mapM f = .ok (as.map g) := by
  induction as with
  | nil => rfl
  | cons a as ih =>
    rw [List.mapM_cons, h a List.mem_cons_self, ok_bind,
      ih fun a' ha' => h a' (List.mem_cons_of_mem a ha')]
    rfl

/-- What every step makes may be changed at once. -/
theorem map_mapM {γ : Type} {f : α → Except ε β} {g : β → γ} (as : List α) :
    (as.mapM f).map (List.map g) = as.mapM fun a => (f a).map g := by
  induction as with
  | nil => rfl
  | cons a as ih =>
    rw [List.mapM_cons, List.mapM_cons, ← ih]
    cases f a with
    | error e => rfl
    | ok b => cases as.mapM f <;> rfl

/-- A step that succeeds on each element of a list does so in any order of them. -/
theorem mapM_of_perm {f : α → Except ε β} {as as' : List α} {bs : List β} (hperm : as'.Perm as)
    (h : as.mapM f = .ok bs) : ∃ bs', as'.mapM f = .ok bs' ∧ bs'.Perm bs := by
  obtain ⟨bs', hall, hbs'⟩ := List.perm_comp_forall₂ hperm (mapM_eq_ok_iff.mp h)
  exact ⟨bs', mapM_eq_ok_iff.mpr hall, hbs'⟩

/-- Checks that all succeed succeed together. -/
theorem forM_eq_ok {f : α → Except ε Unit} {as : List α} (h : ∀ a, f a = .ok ()) :
    as.forM f = .ok () := by
  induction as with
  | nil => rfl
  | cons a as ih =>
    show (f a >>= fun _ => as.forM f) = .ok ()
    rw [h a, ok_bind, ih]

/-- A failure of a chain that its first step does not have is one of the rest. -/
theorem bind_ne_error {r : Except ε α} {next : α → Except ε β} {e : ε} (hr : r ≠ .error e)
    (hnext : ∀ a, next a ≠ .error e) : (r >>= next) ≠ .error e := by
  cases r with
  | error e' =>
    rw [error_bind]
    exact fun h => hr (by rw [Except.error.inj h])
  | ok a => exact hnext a

/-- Checks that agree on every element of a list agree on the list. -/
theorem forM_congr {f g : α → Except ε Unit} {as : List α} (h : ∀ a ∈ as, f a = g a) :
    as.forM f = as.forM g := by
  induction as with
  | nil => rfl
  | cons a as ih =>
    show (f a >>= fun _ => as.forM f) = (g a >>= fun _ => as.forM g)
    rw [h a List.mem_cons_self, ih fun b hb => h b (List.mem_cons_of_mem a hb)]

/-- Checks of which some may fail, each with a failure of its own: the first that fails counts. -/
theorem forM_find? {passes : α → Bool} {failure : α → ε} {as : List α} :
    (as.forM fun a => if passes a then Except.ok () else .error (failure a)) =
      (as.find? fun a => !passes a).elim (.ok ()) fun a => .error (failure a) := by
  induction as with
  | nil => rfl
  | cons a as ih =>
    show ((if passes a then Except.ok () else .error (failure a)) >>= fun _ => as.forM _) = _
    rw [ih, List.find?_cons]
    cases passes a <;> rfl

section Rows

variable {σ : Type} {passes : σ → Prop} {fails : σ → ε → Prop} {steps more : List σ} {s t : σ}
  {r : Except ε α} {next : α → Except ε β} {e : ε}

/-- The first step of a row that does not pass. -/
def StopsAt (passes : σ → Prop) (steps : List σ) (s : σ) : Prop :=
  ∃ before after, steps = before ++ s :: after ∧ (∀ b ∈ before, passes b) ∧ ¬ passes s

open Classical in
theorem stopsAt_iff : StopsAt passes steps s ↔ (steps.find? fun s => ¬ passes s) = some s := by
  rw [List.find?_eq_some_iff_append, StopsAt]
  simp only [decide_eq_true_eq, Bool.not_eq_true', decide_eq_false_iff_not, not_not]
  constructor
  · rintro ⟨before, after, hsteps, hbefore, hs⟩
    exact ⟨hs, before, after, hsteps, hbefore⟩
  · rintro ⟨hs, before, after, hsteps, hbefore⟩
    exact ⟨before, after, hsteps, hbefore, hs⟩

/-- There is one first step only. -/
theorem StopsAt.unique (h : StopsAt passes steps s) (h' : StopsAt passes steps t) : s = t :=
  Option.some.inj ((stopsAt_iff.mp h).symm.trans (stopsAt_iff.mp h'))

theorem StopsAt.exists_iff {P : σ → Prop} (h : StopsAt passes steps s) :
    (∃ t, StopsAt passes steps t ∧ P t) ↔ P s := by
  constructor
  · rintro ⟨t, ht, hP⟩
    rwa [h.unique ht]
  · exact fun hP => ⟨s, h, hP⟩

/-- If all steps pass, there is none that does not. -/
theorem not_stopsAt (hpass : ∀ b ∈ steps, passes b) : ¬ StopsAt passes steps s := by
  rintro ⟨before, after, rfl, _, hs⟩
  exact hs (hpass s (List.mem_append_right before List.mem_cons_self))

theorem stopsAt_cons (h : ¬ passes s) : StopsAt passes (s :: steps) s :=
  ⟨[], steps, rfl, List.forall_mem_nil _, h⟩

theorem StopsAt.append (h : StopsAt passes steps s) (more : List σ) :
    StopsAt passes (steps ++ more) s := by
  obtain ⟨before, after, rfl, hbefore, hs⟩ := h
  exact ⟨before, after ++ more, by simp, hbefore, hs⟩

theorem StopsAt.of_append (hpass : ∀ b ∈ steps, passes b) (h : StopsAt passes more s) :
    StopsAt passes (steps ++ more) s := by
  obtain ⟨before, after, rfl, hbefore, hs⟩ := h
  exact ⟨steps ++ before, after, by simp, List.forall_mem_append.mpr ⟨hpass, hbefore⟩, hs⟩

/-- **Work ends as a row of steps says**: with a result if no step has a failure, and otherwise with
    the one failure of the first step that has any. -/
inductive Follows (fails : σ → ε → Prop) (steps : List σ) : Except ε α → Prop where
  | ok {a : α} (h : ∀ s ∈ steps, ∀ e, ¬ fails s e) : Follows fails steps (.ok a)
  | error {s : σ} {e : ε} (hstop : StopsAt (fun s => ∀ e, ¬ fails s e) steps s)
      (he : ∀ e', fails s e' ↔ e' = e) : Follows fails steps (.error e)

namespace Follows

/-- A row of one step. -/
theorem single (h : ∀ e, fails s e ↔ r = .error e) : Follows fails [s] r := by
  cases r with
  | ok a =>
    have hnone : ∀ e, ¬ fails s e := by
      intro e he
      cases (h e).mp he
    exact .ok (List.forall_mem_singleton.mpr hnone)
  | error e =>
    exact .error (stopsAt_cons fun hnone => hnone e ((h e).mpr rfl))
      fun e' => (h e').trans (by rw [Except.error.injEq, eq_comm])

/-- **One row after the other**, where the second piece of work may build on the first. -/
theorem bind (h : Follows fails steps r) (hnext : ∀ a, r = .ok a → Follows fails more (next a)) :
    Follows fails (steps ++ more) (r >>= next) := by
  cases h with
  | @ok a hnone =>
    rw [ok_bind]
    have hrest := hnext a rfl
    generalize next a = rest at hrest ⊢
    cases hrest with
    | ok hmore => exact .ok (List.forall_mem_append.mpr ⟨hnone, hmore⟩)
    | error hstop he => exact .error (hstop.of_append hnone) he
  | error hstop he => exact .error (hstop.append more) he

theorem ok_iff (h : Follows fails steps r) :
    (∃ a, r = .ok a) ↔ ∀ s ∈ steps, ∀ e, ¬ fails s e := by
  cases h with
  | @ok a hnone => exact iff_of_true ⟨a, rfl⟩ hnone
  | error hstop =>
    refine iff_of_false ?_ fun hnone => not_stopsAt hnone hstop
    rintro ⟨a, h⟩
    cases h

theorem error_iff (h : Follows fails steps r) :
    r = .error e ↔ ∃ s, StopsAt (fun s => ∀ e, ¬ fails s e) steps s ∧ fails s e := by
  cases h with
  | ok hnone =>
    constructor
    · intro h
      cases h
    · rintro ⟨s, hstop, _⟩
      exact absurd hstop (not_stopsAt hnone)
  | error hstop he =>
    constructor
    · intro h
      exact ⟨_, hstop, (he e).mpr (Except.error.inj h).symm⟩
    · rintro ⟨s, hstop', hs⟩
      obtain rfl := hstop'.unique hstop
      rw [(he e).mp hs]

/-- Work whose failures are reported as others. -/
theorem mapError {ε' : Type} {reported : ε → ε'} (h : Follows fails steps r) :
    Follows (fun s e => ∃ raised, fails s raised ∧ e = reported raised) steps
      (r.mapError reported) := by
  cases h with
  | ok hnone =>
    refine .ok fun s hs e => ?_
    rintro ⟨raised, hraised, _⟩
    exact hnone s hs raised hraised
  | error hstop he =>
    obtain ⟨before, after, rfl, hbefore, hs⟩ := hstop
    refine .error ⟨before, after, rfl, fun b hb e => ?_, fun hnone => hs fun raised hraised => ?_⟩
      fun e' => ?_
    · rintro ⟨raised, hraised, _⟩
      exact hbefore b hb raised hraised
    · exact hnone _ ⟨raised, hraised, rfl⟩
    · simp only [he, exists_eq_left]

end Follows

end Rows

section State

variable {τ : Type} {work : ExceptT ε (StateM τ) α} {next : α → ExceptT ε (StateM τ) β} {s s' : τ}

theorem bind_of_ok {a : α} (h : work s = (.ok a, s')) : (work >>= next) s = next a s' := by
  show (match work s with
    | (r, s) => ExceptT.bindCont next r s) = next a s'
  rw [h]
  rfl

theorem bind_of_error {e : ε} (h : work s = (.error e, s')) :
    (work >>= next) s = (.error e, s') := by
  show (match work s with
    | (r, s) => ExceptT.bindCont next r s) = (.error e, s')
  rw [h]
  rfl

end State

end PeppolStatistics
