import Mathlib.Data.List.Induction
import PeppolStatistics.Log.Channel

/-!
# Runs of configurations, resets and log calls

Logging is configured, reset and used by calls in any order. The first configuration since the
last reset governs what follows (`Governs`, stated of the calls alone); before one, logging is
unconfigured (`Unconfigured`).

* `unconfigured_or_governs`: one of the two is the case after any calls;
* `apply_settled`, `after_of_governs`: a configured state is left by a reset only, hence a
  governing configuration still stands after all calls that follow it;
* `emit_settled`: what becomes of a log call in a configured state;
* `Logging.runs_governed`: all of it for a run of calls of any length.
-/

namespace PeppolStatistics

/-! ## 1. Calls -/

/-- A level that can be asked for: a number other than zero, or a level by its name. -/
inductive GivenLevel where
  | number (n : Int) (nonzero : n ≠ 0)
  | named (l : Level)

namespace GivenLevel

/-- The level as an argument. -/
def argument : GivenLevel → Value
  | .number n _ => .int n
  | .named l => .text l.name

/-- The rank of the level. -/
def rank : GivenLevel → Int
  | .number n _ => n
  | .named l => l.number

theorem numberOf_argument (l : GivenLevel) : Level.numberOf l.argument = .ok l.rank := by
  cases l with
  | number n _ => rfl
  | named l => cases l <;> rfl

theorem rank_ne_zero (l : GivenLevel) : l.rank ≠ 0 := by
  cases l with
  | number n nonzero => exact nonzero
  | named l => cases l <;> decide

end GivenLevel

/-- A call that concerns logging, for handlers of any kind. -/
inductive LoggingCall (η : Type) where
  | configure (handler : η) (level : GivenLevel)
  | reset
  | log (rank : Int) (extra : List (String × Value))

namespace LoggingCall

variable {η : Type} {calls : List (LoggingCall η)} {handler : η} {level : GivenLevel}

/-! ## 2. What governs -/

/-- Every configuration among the calls was reset. -/
def Unconfigured (calls : List (LoggingCall η)) : Prop :=
  ∀ before handler level later, calls = before ++ configure handler level :: later → reset ∈ later

/-- **The first configuration since the last reset**: every configuration before it was reset, and
    it was not. -/
def Governs (handler : η) (level : GivenLevel) (calls : List (LoggingCall η)) : Prop :=
  ∃ before later, calls = before ++ configure handler level :: later ∧
    Unconfigured before ∧ reset ∉ later

/-- A call in a run that is one call longer is the last one or stands in the shorter run. -/
theorem concat_eq_split {call split : LoggingCall η} {before later : List (LoggingCall η)}
    (h : calls ++ [call] = before ++ split :: later) :
    (later = [] ∧ split = call) ∨
      ∃ rest, later = rest ++ [call] ∧ calls = before ++ split :: rest := by
  rcases List.eq_nil_or_concat later with rfl | ⟨rest, last, rfl⟩
  · exact .inl ⟨rfl, (List.singleton_inj.mp (List.append_inj_right' h rfl)).symm⟩
  · rw [List.concat_eq_append, ← List.cons_append, ← List.append_assoc] at h
    obtain rfl := List.singleton_inj.mp (List.append_inj_right' h rfl)
    exact .inr ⟨rest, List.concat_eq_append, List.append_inj_left' h rfl⟩

theorem unconfigured_nil : Unconfigured ([] : List (LoggingCall η)) := by
  intro before handler level later h
  cases before <;> cases h

theorem unconfigured_reset (calls : List (LoggingCall η)) : Unconfigured (calls ++ [reset]) := by
  intro before handler level later h
  rcases concat_eq_split h with ⟨-, hsplit⟩ | ⟨rest, rfl, -⟩
  · cases hsplit
  · exact List.mem_append_right rest (List.mem_singleton_self reset)

theorem Unconfigured.log (h : Unconfigured calls) (rank : Int) (extra : List (String × Value)) :
    Unconfigured (calls ++ [log rank extra]) := by
  intro before handler level later hcalls
  rcases concat_eq_split hcalls with ⟨-, hsplit⟩ | ⟨rest, rfl, hrest⟩
  · cases hsplit
  · exact List.mem_append_left _ (h before handler level rest hrest)

theorem Unconfigured.of_concat {call : LoggingCall η} (h : Unconfigured (calls ++ [call]))
    (hcall : call ≠ reset) : Unconfigured calls := by
  intro before handler level later hcalls
  have hmem := h before handler level (later ++ [call]) (by rw [hcalls]; simp)
  rcases List.mem_append.mp hmem with hlater | hlast
  · exact hlater
  · exact absurd (List.mem_singleton.mp hlast).symm hcall

theorem Unconfigured.not_configure : ¬ Unconfigured (calls ++ [configure handler level]) :=
  fun h => List.not_mem_nil (h calls handler level [] rfl)

theorem Unconfigured.governs (h : Unconfigured calls) (handler : η) (level : GivenLevel) :
    Governs handler level (calls ++ [configure handler level]) :=
  ⟨calls, [], rfl, h, List.not_mem_nil⟩

theorem Governs.concat {call : LoggingCall η} (h : Governs handler level calls)
    (hcall : call ≠ reset) : Governs handler level (calls ++ [call]) := by
  obtain ⟨before, later, rfl, hbefore, hlater⟩ := h
  refine ⟨before, later ++ [call], by simp, hbefore, fun hmem => ?_⟩
  rcases List.mem_append.mp hmem with hmem | hmem
  · exact hlater hmem
  · exact hcall (List.mem_singleton.mp hmem).symm

/-- **After any calls, logging is unconfigured or governed by one of them.** -/
theorem unconfigured_or_governs (calls : List (LoggingCall η)) :
    Unconfigured calls ∨ ∃ handler level, Governs handler level calls := by
  induction calls using List.reverseRecOn with
  | nil => exact .inl unconfigured_nil
  | append_singleton calls call ih =>
    cases call with
    | reset => exact .inl (unconfigured_reset calls)
    | configure handler level =>
      -- the new configuration governs only if no other did
      rcases ih with h | ⟨first, firstLevel, h⟩
      · exact .inr ⟨handler, level, h.governs handler level⟩
      · exact .inr ⟨first, firstLevel, h.concat nofun⟩
    | log rank extra =>
      rcases ih with h | ⟨first, firstLevel, h⟩
      · exact .inl (h.log rank extra)
      · exact .inr ⟨first, firstLevel, h.concat nofun⟩

end LoggingCall

/-! ## 3. The state -/

namespace Logging

open LoggingCall (Unconfigured Governs)

variable {η : Type} {calls : List (LoggingCall η)} {handler : η} {level : GivenLevel}

/-- The state after a call. To log changes nothing. -/
def apply (s : Logging η) : LoggingCall η → Logging η
  | .configure handler level => (s.configure handler level.argument).1
  | .reset => s.reset
  | .log _ _ => s

/-- The state after some calls, starting from the state after a reset. -/
def after (calls : List (LoggingCall η)) : Logging η := calls.foldl apply initial

theorem after_append (calls later : List (LoggingCall η)) :
    after (calls ++ later) = later.foldl apply (after calls) := List.foldl_append

/-- The state that a configuration leads to. -/
def settled (handler : η) (level : GivenLevel) : Logging η := ⟨true, [handler], level.rank, false⟩

/-- The first configuration attaches its handler and does not fail. -/
theorem configure_initial (handler : η) (level : GivenLevel) :
    initial.configure handler level.argument = (settled handler level, none) := by
  rw [configure, level.numberOf_argument]
  rfl

/-- A configured state is left by a reset only. -/
theorem apply_settled {call : LoggingCall η} (hcall : call ≠ .reset) :
    (settled handler level).apply call = settled handler level := by
  cases call with
  | reset => exact absurd rfl hcall
  | configure other otherLevel => exact congrArg Prod.fst (configure_of_configured rfl _ _)
  | log rank extra => rfl

theorem foldl_settled (hcalls : LoggingCall.reset ∉ calls) :
    calls.foldl apply (settled handler level) = settled handler level := by
  induction calls with
  | nil => rfl
  | cons call calls ih =>
    have hcall : call ≠ .reset := fun h => hcalls (h ▸ List.mem_cons_self)
    rw [List.foldl_cons, apply_settled hcall]
    exact ih fun h => hcalls (List.mem_cons_of_mem call h)

/-- **While unconfigured, logging is as after a reset.** -/
theorem after_of_unconfigured (h : Unconfigured calls) : after calls = initial := by
  induction calls using List.reverseRecOn with
  | nil => rfl
  | append_singleton calls call ih =>
    rw [after_append]
    -- a reset ends in the initial state from anywhere, so only a log call needs the hypothesis
    cases call with
    | reset => rfl
    | configure handler level => exact absurd h LoggingCall.Unconfigured.not_configure
    | log rank extra => exact ih (h.of_concat nofun)

/-- **A governing configuration still stands.** -/
theorem after_of_governs (h : Governs handler level calls) :
    after calls = settled handler level := by
  obtain ⟨before, later, rfl, hbefore, hlater⟩ := h
  -- what came before the configuration was reset, and what came after it changes nothing
  rw [after_append, after_of_unconfigured hbefore, List.foldl_cons, apply, configure_initial]
  exact foldl_settled hlater

/-! ## 4. Records -/

/-- What becomes of a record in a configured state. -/
theorem emit_settled (outer : List η) (rank : Int) (extra : List (String × Value)) :
    (settled handler level).emit outer rank extra =
      if 0 < rank ∧ level.rank ≤ rank then
        match extra.find? fun f => takenNames.contains f.1 with
        | some f => .error (.recordFieldTaken (quoted f.1))
        | none => .ok [handler]
      else .ok [] := by
  have heffective : (settled handler level).effectiveLevel = level.rank :=
    if_neg level.rank_ne_zero
  rw [emit, heffective]
  rfl

/-- **Logging as one configuration set it up**: its handler is the only one, at its level, and no
    further configuration changes anything. Whatever handlers the outermost logger has, a record at
    the level or above it, and above zero, goes to that handler alone, unless one of its further
    fields has a name that records keep for themselves, which the call is refused for. No other
    record goes anywhere. -/
structure GovernedBy (s : Logging η) (handler : η) (level : GivenLevel) : Prop where
  attached : s.handlers = [handler]
  ranked : s.level = level.rank
  contained : s.propagates = false
  stays : ∀ other otherLevel, s.configure other otherLevel = (s, none)
  emits : ∀ outer rank extra, 0 < rank → level.rank ≤ rank → (∀ f ∈ extra, f.1 ∉ takenNames) →
    s.emit outer rank extra = .ok [handler]
  refuses : ∀ outer rank before f later, 0 < rank → level.rank ≤ rank →
    (∀ g ∈ before, g.1 ∉ takenNames) → f.1 ∈ takenNames →
    s.emit outer rank (before ++ f :: later) = .error (.recordFieldTaken (quoted f.1))
  silent : ∀ outer rank extra, rank ≤ 0 ∨ rank < level.rank → s.emit outer rank extra = .ok []

theorem governedBy_settled (handler : η) (level : GivenLevel) :
    (settled handler level).GovernedBy handler level where
  attached := rfl
  ranked := rfl
  contained := rfl
  stays := configure_of_configured rfl
  emits := by
    intro outer rank extra hpositive hlevel hfree
    have hfind : (extra.find? fun f => takenNames.contains f.1) = none :=
      List.find?_eq_none.mpr fun f hf => by simpa using hfree f hf
    rw [emit_settled, if_pos ⟨hpositive, hlevel⟩, hfind]
  refuses := by
    intro outer rank before f later hpositive hlevel hfree hf
    have hfind : ((before ++ f :: later).find? fun g => takenNames.contains g.1) = some f :=
      List.find?_eq_some_iff_append.mpr
        ⟨by simpa using hf, before, later, rfl, fun g hg => by simpa using hfree g hg⟩
    rw [emit_settled, if_pos ⟨hpositive, hlevel⟩, hfind]
  silent := by
    intro outer rank extra hlow
    rw [emit_settled, if_neg (by omega)]

/-- **Every run of calls.** After any configurations, resets and log calls logging is unconfigured,
    without a handler and propagating, or it is as the first configuration since the last reset
    set it up. -/
theorem runs_governed (calls : List (LoggingCall η)) :
    (Unconfigured calls ∨ ∃ handler level, Governs handler level calls) ∧
    (Unconfigured calls → (after calls).handlers = [] ∧ (after calls).propagates = true) ∧
    ∀ handler level, Governs handler level calls → (after calls).GovernedBy handler level := by
  refine ⟨LoggingCall.unconfigured_or_governs calls, fun h => ?_, fun handler level h => ?_⟩
  · rw [after_of_unconfigured h]
    exact ⟨rfl, rfl⟩
  · rw [after_of_governs h]
    exact governedBy_settled handler level

/-- A configuration that was reset. -/
def configuredOnce : List (LoggingCall String) :=
  [.configure "first" (.named .debug), .reset, .log 30 []]

/-- After it the configuration that counts, and one that comes too late. -/
def configuredAgain : List (LoggingCall String) :=
  configuredOnce ++ [.configure "second" (.named .warning), .configure "third" (.named .debug)]

/-- Between the configurations there is no handler; after them a warning goes to the second handler
    alone, and a line below the level of this handler nowhere. -/
theorem runs_governed_again :
    Unconfigured configuredOnce ∧ (after configuredOnce).handlers = [] ∧
    Governs "second" (.named .warning) configuredAgain ∧
    (after configuredAgain).emit ["outer"] 30 [("items", .int 3)] = .ok ["second"] ∧
    (after configuredAgain).emit ["outer"] 20 [] = .ok [] := by
  have honce : Unconfigured configuredOnce :=
    (LoggingCall.unconfigured_reset [.configure "first" (.named .debug)]).log 30 []
  have hagain : Governs "second" (.named .warning) configuredAgain :=
    ⟨configuredOnce, _, rfl, honce, by simp⟩
  have hgoverned := (runs_governed configuredAgain).2.2 _ _ hagain
  have hfree : ∀ f ∈ [("items", Value.int 3)], f.1 ∉ takenNames := by
    simp [takenNames, recordAttributes]
  exact ⟨honce, ((runs_governed configuredOnce).2.1 honce).1, hagain,
    hgoverned.emits ["outer"] 30 _ (by decide) (by decide) hfree,
    hgoverned.silent ["outer"] 20 [] (.inr (by decide))⟩

/-- **The level alone does not decide**: a further field with the name of an attribute of records,
    and a level below zero, each keep a record from its handler that is at the level or above. -/
theorem not_emitted_by_level_alone :
    (¬ ∀ (calls : List (LoggingCall String)) (handler : String) (level : GivenLevel) (rank : Int)
      (extra : List (String × Value)), Governs handler level calls → 0 < rank →
      level.rank ≤ rank → (after calls).emit [] rank extra = .ok [handler]) ∧
    ¬ ∀ (calls : List (LoggingCall String)) (handler : String) (level : GivenLevel) (rank : Int),
      Governs handler level calls → level.rank ≤ rank →
      (after calls).emit [] rank [] = .ok [handler] := by
  constructor
  · intro h
    have hemit := h [.configure "h1" (.named .info)] "h1" (.named .info) 20 [("name", .text "v")]
      (LoggingCall.unconfigured_nil.governs _ _) (by decide) (by decide)
    exact absurd hemit nofun
  · intro h
    have hemit := h [.configure "h1" (.number (-5) (by decide))] "h1" (.number (-5) (by decide)) (-1)
      (LoggingCall.unconfigured_nil.governs _ _) (by decide)
    exact absurd hemit nofun

end Logging

end PeppolStatistics
