import Mathlib.Data.List.Induction
import PeppolStatistics.Log.Channel

/-!
# Configurations that fail

A call of `configure` counts as the first one before its arguments are looked at. If they are
refused, the call fails, and it has counted all the same.

* `configureWith_cases`: the three ends of a call: it comes too late, it fails, or it attaches its
  handler;
* `reached_unconfigured`: after any calls, logging is configured or as after a reset;
* `foldl_of_configured`: what is configured stays as it is until a reset;
* `failing_configuration`: when a call fails, and what follows from it: the handlers, the level and
  the propagation are as they were, and until the next reset no configuration has an effect any
  more (`failing_configuration_counts`).
-/

namespace PeppolStatistics

/-! ## 1. Calls -/

/-- A call that configures logging, with arguments of any kind, or undoes it. -/
inductive ConfigurationCall (η : Type) where
  | configure (target : Except Failure η) (level : Value)
  | reset

namespace Logging

variable {η : Type} {s : Logging η} {calls later : List (ConfigurationCall η)}
  {target : Except Failure η} {level : Value} {e : Failure}

/-- The same state, but counting as configured. -/
def counted (s : Logging η) : Logging η := { s with configured := true }

/-- **Arguments are refused**: what is given is no handler, or the level does not exist. -/
def Refuses (target : Except Failure η) (level : Value) (e : Failure) : Prop :=
  target = .error e ∨ ∃ handler, target = .ok handler ∧ Level.numberOf level = .error e

/-- **The ends of a call**: it comes too late and changes nothing; it is the first one and its
    arguments are refused; or it is the first one and attaches its handler. -/
theorem configureWith_cases (s : Logging η) (target : Except Failure η) (level : Value) :
    (s.configured = true ∧ s.configureWith target level = (s, none)) ∨
    (s.configured = false ∧ ∃ e, Refuses target level e ∧
      s.configureWith target level = (s.counted, some e)) ∨
    s.configured = false ∧ ∃ handler n, target = .ok handler ∧ Level.numberOf level = .ok n ∧
      s.configureWith target level = (⟨true, s.handlers ++ [handler], n, false⟩, none) := by
  cases hconfigured : s.configured with
  | true =>
    refine .inl ⟨rfl, ?_⟩
    cases target with
    | error e => exact if_pos hconfigured
    | ok handler => exact configure_of_configured hconfigured handler level
  | false =>
    refine .inr ?_
    have hfirst : ¬ s.configured = true := Bool.eq_false_iff.mp hconfigured
    cases target with
    | error e => exact .inl ⟨rfl, e, .inl rfl, if_neg hfirst⟩
    | ok handler =>
      cases hlevel : Level.numberOf level with
      | error e =>
        refine .inl ⟨rfl, e, .inr ⟨handler, rfl, hlevel⟩, ?_⟩
        rw [configureWith, configure, if_neg hfirst, hlevel]
        rfl
      | ok n =>
        refine .inr ⟨rfl, handler, n, rfl, rfl, ?_⟩
        rw [configureWith, configure, if_neg hfirst, hlevel]

/-- A call, and its failure if it has one. -/
def attempt (s : Logging η) : ConfigurationCall η → Logging η × Option Failure
  | .configure target level => s.configureWith target level
  | .reset => (s.reset, none)

/-- The state after some calls, starting from the state after a reset. The failures of the calls are
    caught. -/
def reached (calls : List (ConfigurationCall η)) : Logging η :=
  calls.foldl (fun s call => (s.attempt call).1) initial

/-! ## 2. The state -/

/-- **After any calls, logging is configured or as after a reset.** -/
theorem reached_unconfigured (h : (reached calls).configured = false) : reached calls = initial := by
  induction calls using List.reverseRecOn with
  | nil => rfl
  | append_singleton calls call ih =>
    rw [reached, List.foldl_append] at h ⊢
    cases call with
    | reset => rfl
    | configure target level =>
      -- whatever becomes of the call, logging is configured after it
      change ((reached calls).configureWith target level).1.configured = false at h
      rcases configureWith_cases (reached calls) target level with
        ⟨hconfigured, hcall⟩ | ⟨_, e, _, hcall⟩ | ⟨_, handler, n, _, _, hcall⟩
      · rw [hcall, hconfigured] at h
        cases h
      · rw [hcall] at h
        cases h
      · rw [hcall] at h
        cases h

/-- What is configured stays as it is, and no call fails, until a reset. -/
theorem attempt_of_configured (h : s.configured = true) {call : ConfigurationCall η}
    (hcall : call ≠ .reset) : s.attempt call = (s, none) := by
  cases call with
  | reset => exact absurd rfl hcall
  | configure target level =>
    rcases configureWith_cases s target level with ⟨_, heq⟩ | ⟨hfalse, _⟩ | ⟨hfalse, _⟩
    · exact heq
    · rw [h] at hfalse
      cases hfalse
    · rw [h] at hfalse
      cases hfalse

theorem foldl_of_configured (h : s.configured = true) (hlater : ConfigurationCall.reset ∉ later) :
    later.foldl (fun s call => (s.attempt call).1) s = s := by
  induction later with
  | nil => rfl
  | cons call later ih =>
    have hcall : call ≠ .reset := fun h => hlater (h ▸ List.mem_cons_self)
    rw [List.foldl_cons, attempt_of_configured h hcall]
    exact ih fun h => hlater (List.mem_cons_of_mem call h)

/-! ## 3. Calls that fail -/

theorem Refuses.unique {e' : Failure} (h : Refuses target level e) (h' : Refuses target level e') :
    e = e' := by
  rcases h with rfl | ⟨handler, rfl, hlevel⟩ <;> rcases h' with htarget | ⟨other, htarget, hlevel'⟩
  · exact Except.error.inj htarget
  · cases htarget
  · cases htarget
  · exact Except.error.inj (hlevel.symm.trans hlevel')

/-- **A call fails** exactly if it is the first one and its arguments are refused. -/
theorem configureWith_fails_iff :
    (s.configureWith target level).2 = some e ↔ s.configured = false ∧ Refuses target level e := by
  rcases configureWith_cases s target level with
    ⟨hconfigured, hcall⟩ | ⟨hfirst, e', hrefuses, hcall⟩ | ⟨_, handler, n, rfl, hlevel, hcall⟩
  · simp [hcall, hconfigured]
  · rw [hcall, Option.some.injEq]
    constructor
    · rintro rfl
      exact ⟨hfirst, hrefuses⟩
    · rintro ⟨_, h⟩
      exact hrefuses.unique h
  · simp [hcall, Refuses, hlevel]

/-- A call that fails changes nothing but that logging counts as configured. -/
theorem configureWith_of_fails (h : (s.configureWith target level).2 = some e) :
    (s.configureWith target level).1 = s.counted := by
  rcases configureWith_cases s target level with ⟨_, hcall⟩ | ⟨_, _, _, hcall⟩ | ⟨_, _, _, _, _, hcall⟩
  · rw [hcall] at h
    cases h
  · rw [hcall]
  · rw [hcall] at h
    cases h

/-- **A configuration that fails counts all the same.** After any calls, a configuration fails
    exactly if logging is unconfigured and the arguments are refused. The handlers, the level and
    the propagation are then as they were, which is as after a reset, and so is what becomes of a
    record. But logging counts as configured: until the next reset no configuration has an effect,
    whatever its arguments are, and none fails. -/
theorem failing_configuration (calls : List (ConfigurationCall η)) (target : Except Failure η)
    (level : Value) :
    (∀ e, ((reached calls).configureWith target level).2 = some e ↔
      (reached calls).configured = false ∧ Refuses target level e) ∧
    ∀ e, ((reached calls).configureWith target level).2 = some e →
      reached calls = initial ∧
      (∀ later, .reset ∉ later →
        reached (calls ++ .configure target level :: later) = (reached calls).counted) ∧
      (∀ other otherLevel, (reached calls).counted.configureWith other otherLevel =
        ((reached calls).counted, none)) ∧
      ∀ outer rank extra, (reached calls).counted.emit outer rank extra =
        (reached calls).emit outer rank extra := by
  refine ⟨fun e => configureWith_fails_iff, fun e hfails => ⟨?_, fun later hlater => ?_,
    fun other otherLevel => ?_, fun outer rank extra => rfl⟩⟩
  · exact reached_unconfigured (configureWith_fails_iff.mp hfails).1
  · rw [reached, List.foldl_append, List.foldl_cons, ← reached, attempt,
      configureWith_of_fails hfails]
    exact foldl_of_configured rfl hlater
  · have hcall : ConfigurationCall.configure other otherLevel ≠ .reset := nofun
    exact attempt_of_configured rfl hcall

/-- A level that does not exist, after a configuration that was reset. -/
theorem failing_configuration_loud :
    let calls : List (ConfigurationCall String) :=
      [.configure (.ok "first") (.text "DEBUG"), .configure (.ok "second") (.text "LOUD"), .reset]
    ((reached calls).configureWith (.ok "third") (.text "LOUD")).2 =
        some (.unknownLevelName (quoted "LOUD")) ∧
      .reset ∉ [ConfigurationCall.configure (.ok "fourth") (.text "INFO")] ∧
      (reached (calls ++ [.configure (.ok "third") (.text "LOUD"),
        .configure (.ok "fourth") (.text "INFO")])).handlers = [] := by
  intro calls
  obtain ⟨hiff, hcounts⟩ := failing_configuration calls (.ok "third") (.text "LOUD")
  have hfails := (hiff (.unknownLevelName (quoted "LOUD"))).mpr
    ⟨rfl, .inr ⟨"third", rfl, rfl⟩⟩
  have hlater : ConfigurationCall.reset ∉
      [ConfigurationCall.configure (.ok "fourth") (.text "INFO")] := by simp
  exact ⟨hfails, hlater, congrArg Logging.handlers ((hcounts _ hfails).2.1 _ hlater)⟩

/-- **A call that fails does change the state**: the next call, which would have attached its
    handler, comes too late. -/
theorem failing_configuration_counts :
    (¬ ∀ (calls : List (ConfigurationCall String)) (target : Except Failure String) (level : Value)
      (e : Failure), ((reached calls).configureWith target level).2 = some e →
      ((reached calls).configureWith target level).1 = reached calls) ∧
    (reached [ConfigurationCall.configure (.ok "h1") (.int 20)]).handlers = ["h1"] ∧
    (reached [ConfigurationCall.configure (.ok "h1") (.text "LOUD"),
      .configure (.ok "h1") (.int 20)]).handlers = [] := by
  refine ⟨fun h => ?_, rfl, rfl⟩
  have hsame := h [] (.ok "h1") (.text "LOUD") (.unknownLevelName (quoted "LOUD")) rfl
  exact absurd (congrArg Logging.configured hsame) nofun

end Logging

end PeppolStatistics
