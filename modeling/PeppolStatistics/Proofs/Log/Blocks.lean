import PeppolStatistics.Proofs.Log.Traced

/-!
# Blocks of the log context

Programs that set and clear fields of the log context, bind them for the duration of blocks nested
to any depth, log, fail, and catch failures (`ContextCall`). A failure that is not caught leaves
all blocks around it.

* `merge_of_named`, `merge_of_not_named`: what updates make of a context, and which are refused;
* `run_ends`, `runAll_ends`: how a program ends does not depend on the context, and what it does to
  the context are its own steps alone: blocks do nothing to it, whatever happens in them;
* `ContextStep.run_toCall`: the programs of `ContextStep` are those whose blocks and updates are
  guarded one by one;
* `bind_blocks`: blocks from the outside and from the inside.
-/

namespace PeppolStatistics

/-! ## 1. Updates -/

namespace LogContext

variable {c : LogContext} {updates : List (String × Value)}

/-- The names of some updates are those of fields. -/
def Named (updates : List (String × Value)) : Prop :=
  ∀ u ∈ updates, ∃ f ∈ ContextField.all, f.name = u.1

instance (updates : List (String × Value)) : Decidable (Named updates) :=
  inferInstanceAs (Decidable (∀ u ∈ updates, ∃ f ∈ ContextField.all, f.name = u.1))

/-- The value that some updates give a field: the last one that is not nothing. -/
def given? (updates : List (String × Value)) (f : ContextField) : Option Value :=
  (updates.reverse.find? fun u => u.1 == f.name && !u.2.isNull).map (·.2)

/-- The context with some updates; a field to which they give no value is as it was. -/
def updated (c : LogContext) (updates : List (String × Value)) : LogContext :=
  ⟨fun f => (given? updates f).or (c.value? f)⟩

/-- Why updates are refused. -/
def refusal (updates : List (String × Value)) : Failure :=
  if updates.any fun u => u.1 == ownName then .wrongType
  else .unknownContextFields (unknownNames updates)

theorem given?_cons (u : String × Value) (us : List (String × Value)) (f : ContextField) :
    given? (u :: us) f =
      (given? us f).or (if u.1 = f.name ∧ u.2.isNull = false then some u.2 else none) := by
  rw [given?, List.reverse_cons, List.find?_append, Option.map_or, given?, List.find?_singleton]
  simp only [Bool.and_eq_true, beq_iff_eq, Bool.not_eq_true']
  split <;> rfl

/-- What updates give a field is among them, and is not nothing. -/
theorem mem_of_given? {f : ContextField} {v : Value} (h : given? updates f = some v) :
    (f.name, v) ∈ updates ∧ v.isNull = false := by
  obtain ⟨⟨n, w⟩, hfound, rfl⟩ := Option.map_eq_some_iff.mp h
  have htest := List.find?_some hfound
  rw [Bool.and_eq_true, beq_iff_eq, Bool.not_eq_true'] at htest
  obtain ⟨rfl, hw⟩ := htest
  exact ⟨List.mem_reverse.mp (List.mem_of_find?_eq_some hfound), hw⟩

/-- Updates that give a field nothing but nothing. -/
theorem given?_eq_none_iff {f : ContextField} :
    given? updates f = none ↔ ∀ v, (f.name, v) ∈ updates → v.isNull = true := by
  simp only [given?, Option.map_eq_none_iff, List.find?_eq_none, List.mem_reverse, Bool.and_eq_true,
    beq_iff_eq, Bool.not_eq_true', not_and, Bool.not_eq_false, Prod.forall]
  exact ⟨fun h v hv => h _ v hv rfl, fun h n v hv hn => h v (hn ▸ hv)⟩

/-- A field to which updates give one value has it then. -/
theorem value?_updated_of_mem (c : LogContext) {f : ContextField} {v : Value}
    (hv : (f.name, v) ∈ updates) (hnull : v.isNull = false)
    (hone : ∀ w, (f.name, w) ∈ updates → w = v) : (c.updated updates).value? f = some v := by
  show (given? updates f).or (c.value? f) = some v
  cases hgiven : given? updates f with
  | none => simp [given?_eq_none_iff.mp hgiven v hv] at hnull
  | some w => rw [Option.some_or, hone w (mem_of_given? hgiven).1]

/-- A field to which updates give nothing is as it was. -/
theorem value?_updated_of_null (c : LogContext) {f : ContextField}
    (h : ∀ v, (f.name, v) ∈ updates → v.isNull = true) :
    (c.updated updates).value? f = c.value? f := by
  show (given? updates f).or (c.value? f) = c.value? f
  rw [given?_eq_none_iff.mpr h, Option.none_or]

/-- **The names in a context** are those of fields, each at most once. -/
theorem names_toEntries (c : LogContext) :
    (c.toEntries.map (·.1)).Sublist ["correlation_id", "report_type", "reporter_id"] := by
  have hnames : c.toEntries.map (·.1) =
      (ContextField.all.filter fun f => (c.value? f).isSome).map ContextField.name := by
    rw [toEntries, List.map_filterMap, ← List.filterMap_eq_map, ← List.filterMap_eq_filter,
      List.filterMap_filterMap]
    refine List.filterMap_congr fun f _ => ?_
    cases hf : c.value? f <;> simp [hf, Option.guard]
  rw [hnames]
  exact List.filter_sublist.map ContextField.name

/-- Setting a field gives it the value unless that is nothing. -/
theorem value?_put_eq (c : LogContext) (f g : ContextField) (v : Value) :
    (c.put f v).value? g = if f.name = g.name ∧ v.isNull = false then some v else c.value? g := by
  have hname : f.name = g.name ↔ g = f := by cases f <;> cases g <;> decide
  cases v with
  | null => exact (if_neg (by simp [Value.isNull])).symm
  | _ => exact if_congr (by simp [hname, Value.isNull]) rfl rfl

theorem unknownNames_eq_nil_iff : unknownNames updates = [] ↔ Named updates := by
  have hname : ∀ n, (ContextField.ofName? n).isNone = true ↔ ¬ ∃ f ∈ ContextField.all, f.name = n := by
    intro n
    simp [ContextField.ofName?]
  simp only [List.eq_nil_iff_forall_not_mem, unknownNames, List.mem_mergeSort, mem_distinct,
    List.mem_filter, List.mem_map, hname, Named]
  constructor
  · intro h u hu
    by_contra hne
    exact h u.1 ⟨⟨u, hu, rfl⟩, hne⟩
  · rintro h n ⟨⟨u, hu, rfl⟩, hne⟩
    exact hne (h u hu)

/-- One update before others. -/
theorem updated_put (c : LogContext) (f : ContextField) (v : Value)
    (us : List (String × Value)) : (c.put f v).updated us = c.updated ((f.name, v) :: us) := by
  refine congrArg LogContext.mk (funext fun g => ?_)
  rw [value?_put_eq, given?_cons, Option.or_assoc]
  split <;> rfl

theorem foldl_put (h : Named updates) (c : LogContext) :
    updates.foldl (fun c u => match ContextField.ofName? u.1 with
      | some f => c.put f u.2
      | none => c) c = c.updated updates := by
  induction updates generalizing c with
  | nil => rfl
  | cons u us ih =>
    obtain ⟨n, v⟩ := u
    obtain ⟨f, -, rfl⟩ := h _ List.mem_cons_self
    rw [List.foldl_cons, ih fun w hw => h w (List.mem_cons_of_mem _ hw), ← updated_put]
    simp only [ContextField.ofName?_name]

/-- A field is not called by the name of the context itself. -/
theorem Named.any_ownName (h : Named updates) : (updates.any fun u => u.1 == ownName) = false := by
  rw [List.any_eq_false]
  intro u hu
  obtain ⟨f, -, hf⟩ := h u hu
  rw [← hf, beq_iff_eq]
  exact f.name_ne_ownName

/-- **Updates of fields** give each field its value. -/
theorem merge_of_named (h : Named updates) (c : LogContext) :
    c.merge updates = .ok (c.updated updates) := by
  rw [merge, h.any_ownName, if_neg Bool.false_ne_true, unknownNames_eq_nil_iff.mpr h,
    if_pos List.isEmpty_nil]
  exact congrArg Except.ok (foldl_put h c)

/-- **Updates of anything else** are refused. -/
theorem merge_of_not_named (h : ¬ Named updates) (c : LogContext) :
    c.merge updates = .error (refusal updates) := by
  have hunknown : ¬ (unknownNames updates).isEmpty = true := by
    rw [List.isEmpty_iff, unknownNames_eq_nil_iff]
    exact h
  rw [merge, refusal, if_neg hunknown]
  split <;> rfl

theorem kind_refusal (updates : List (String × Value)) :
    (refusal updates).kind = if ownName ∈ updates.map (·.1) then .type else .value := by
  have hown : (updates.any fun u => u.1 == ownName) = true ↔ ownName ∈ updates.map (·.1) := by
    simp [List.any_eq_true]
  rw [refusal]
  simp only [hown]
  split <;> rfl

end LogContext

open LogContext in
/-- A block that binds fields runs with their values and ends with the context from before. -/
theorem Traced.within_of_named {α : Type} {fields : List (String × Value)} (h : Named fields)
    (work : Traced α) (t : Trace) :
    within fields work t =
      ((work { t with context := t.context.updated fields }).1,
        { (work { t with context := t.context.updated fields }).2 with context := t.context }) := by
  rw [within, merge_of_named h]
  rfl

open LogContext in
/-- A block that cannot bind its fields does not run. -/
theorem Traced.within_of_not_named {α : Type} {fields : List (String × Value)}
    (h : ¬ Named fields) (work : Traced α) (t : Trace) :
    within fields work t = (.error (refusal fields), t) := by
  rw [within, merge_of_not_named h]

/-! ## 2. Programs -/

/-- A step of a program on the log context. -/
inductive ContextCall where
  | set (fields : List (String × Value))
  | clear
  | log (level : Level) (part message : String)
  | raise (e : Failure)
  /-- Sets the fields for the duration of the steps. -/
  | bind (fields : List (String × Value)) (body : List ContextCall)
  /-- Catches the failure that ends the steps. -/
  | attempt (body : List ContextCall)

namespace ContextCall

open LogContext

/-- Sets fields of the context. -/
def setFields (fields : List (String × Value)) : Traced Unit := fun t =>
  match t.context.merge fields with
  | .ok c => (.ok (), { t with context := c })
  | .error e => (.error e, t)

mutual

/-- Runs one step. -/
def run : ContextCall → Traced Unit
  | .set fields => setFields fields
  | .clear => modify fun t => { t with context := .empty }
  | .log level part message => Traced.log level part message [] none
  | .raise e => throw e
  | .bind fields body => Traced.within fields (runAll body)
  | .attempt body => fun t => (.ok (), (runAll body t).2)

/-- Runs some steps until one fails. -/
def runAll : List ContextCall → Traced Unit
  | [] => pure ()
  | step :: steps => do
    run step
    runAll steps

end

/-! ## 3. What can be read off a program -/

mutual

/-- How a step ends. -/
def outcome : ContextCall → Except Failure Unit
  | .set fields => if Named fields then .ok () else .error (refusal fields)
  | .bind fields body => if Named fields then outcomeAll body else .error (refusal fields)
  | .raise e => .error e
  | .clear | .log _ _ _ | .attempt _ => .ok ()

/-- How some steps end: with the first failure. -/
def outcomeAll : List ContextCall → Except Failure Unit
  | [] => .ok ()
  | step :: steps => do
    outcome step
    outcomeAll steps

end

mutual

/-- What a step does to the context. A block does nothing to it. -/
def effect (c : LogContext) : ContextCall → LogContext
  | .set fields => if Named fields then c.updated fields else c
  | .clear => .empty
  | .attempt body => effectAll c body
  | .log _ _ _ | .raise _ | .bind _ _ => c

/-- What some steps do to the context, up to the first failure. -/
def effectAll (c : LogContext) : List ContextCall → LogContext
  | [] => c
  | step :: steps =>
    match outcome step with
    | .ok () => effectAll (effect c step) steps
    | .error _ => effect c step

end

/-- Work that ends in some way and leaves some context; it may add lines to the log. -/
def Ends (work : Traced Unit) (t : Trace) (answer : Except Failure Unit) (context : LogContext) :
    Prop :=
  ∃ events, work t = (answer, ⟨context, t.events ++ events⟩)

theorem setFields_of_named {fields : List (String × Value)} (h : Named fields) (t : Trace) :
    setFields fields t = (.ok (), { t with context := t.context.updated fields }) := by
  rw [setFields, merge_of_named h]

theorem setFields_of_not_named {fields : List (String × Value)} (h : ¬ Named fields) (t : Trace) :
    setFields fields t = (.error (refusal fields), t) := by
  rw [setFields, merge_of_not_named h]

theorem ends_unchanged (answer : Except Failure Unit) (t : Trace) (c : LogContext) :
    ∃ events, ((answer, ⟨c, t.events⟩) : Except Failure Unit × Trace) =
      (answer, ⟨c, t.events ++ events⟩) :=
  ⟨[], by rw [List.append_nil]⟩

mutual

/-- **A step ends and acts as can be read off it.** -/
theorem run_ends : ∀ (step : ContextCall) (t : Trace),
    Ends step.run t step.outcome (step.effect t.context)
  | .set fields, t => by
    rw [Ends, run, outcome, effect]
    by_cases h : Named fields
    · rw [setFields_of_named h, if_pos h, if_pos h]
      exact ends_unchanged _ _ _
    · rw [setFields_of_not_named h, if_neg h, if_neg h]
      exact ends_unchanged _ _ _
  | .clear, t => ends_unchanged _ t _
  | .log level part message, t => ⟨_, rfl⟩
  | .raise e, t => ends_unchanged _ t _
  | .bind fields body, t => by
    rw [Ends, run, outcome, effect]
    by_cases h : Named fields
    · obtain ⟨events, hbody⟩ := runAll_ends body { t with context := t.context.updated fields }
      refine ⟨events, ?_⟩
      rw [Traced.within_of_named h, hbody, if_pos h]
    · rw [Traced.within_of_not_named h, if_neg h]
      exact ends_unchanged _ _ _
  | .attempt body, t => by
    obtain ⟨events, hbody⟩ := runAll_ends body t
    refine ⟨events, ?_⟩
    show ((.ok (), (runAll body t).2) : Except Failure Unit × Trace) = _
    rw [hbody, outcome, effect]

/-- **So do some steps.** -/
theorem runAll_ends : ∀ (steps : List ContextCall) (t : Trace),
    Ends (runAll steps) t (outcomeAll steps) (effectAll t.context steps)
  | [], t => ends_unchanged _ t _
  | step :: steps, t => by
    obtain ⟨events, hstep⟩ := run_ends step t
    rw [Ends, runAll, outcomeAll, effectAll]
    cases hend : step.outcome with
    | error e =>
      rw [hend] at hstep
      exact ⟨events, bind_of_error hstep⟩
    | ok a =>
      rw [hend] at hstep
      obtain ⟨more, hsteps⟩ := runAll_ends steps ⟨step.effect t.context, t.events ++ events⟩
      refine ⟨events ++ more, ?_⟩
      rw [bind_of_ok hstep, hsteps, List.append_assoc]
      rfl

end

/-- One step whose failure is caught. -/
theorem run_attempt_single (step : ContextCall) (t : Trace) :
    (attempt [step]).run t = (.ok (), (step.run t).2) := by
  show ((.ok (), (runAll [step] t).2) : Except Failure Unit × Trace) = _
  obtain ⟨answer, t', hstep⟩ : ∃ answer t', step.run t = (answer, t') := ⟨_, _, rfl⟩
  rw [hstep, runAll]
  cases answer with
  | error e => rw [bind_of_error hstep]
  | ok a =>
    rw [bind_of_ok hstep]
    rfl

end ContextCall

/-! ## 4. Programs whose failures are caught one by one -/

namespace ContextStep

open ContextCall LogContext

mutual

/-- A step of which only a failure that it announces itself is handed on. -/
def toCall : ContextStep → ContextCall
  | .set fields => .attempt [.set fields]
  | .clear => .clear
  | .raise text => .raise (.raised text)
  | .bind fields body => .attempt [.bind fields (toCalls body)]

/-- Some such steps. -/
def toCalls : List ContextStep → List ContextCall
  | [] => []
  | step :: steps => toCall step :: toCalls steps

end

/-- How the course of some steps ends. -/
def answerOf (r : ContextRun) : Except Failure Unit :=
  match r.raised with
  | none => .ok ()
  | some e => .error e

mutual

/-- **The course of a step is that of its program.** -/
theorem run_toCall : ∀ (step : ContextStep) (t : Trace),
    step.toCall.run t =
      (answerOf (step.run t.context), { t with context := (step.run t.context).context })
  | .set fields, t => by
    rw [toCall, run_attempt_single]
    show ((.ok (), (setFields fields t).2) : Except Failure Unit × Trace) = _
    rw [setFields, ContextStep.run]
    cases t.context.merge fields with
    | ok c => rfl
    | error e => rfl
  | .clear, t => rfl
  | .raise text, t => rfl
  | .bind fields body, t => by
    rw [toCall, run_attempt_single]
    show ((.ok (), (Traced.within fields (ContextCall.runAll (toCalls body)) t).2) :
      Except Failure Unit × Trace) = _
    rw [Traced.within, ContextStep.run]
    cases t.context.merge fields with
    | error e => rfl
    | ok inner =>
      simp only [runAll_toCalls body]
      rfl

/-- **The course of some steps is that of their program.** -/
theorem runAll_toCalls : ∀ (steps : List ContextStep) (t : Trace),
    ContextCall.runAll (toCalls steps) t =
      (answerOf (ContextStep.runAll t.context steps),
        { t with context := (ContextStep.runAll t.context steps).context })
  | [], t => rfl
  | step :: steps, t => by
    have hstep := run_toCall step t
    rw [toCalls, ContextCall.runAll, ContextStep.runAll]
    cases hraised : (step.run t.context).raised with
    | some e =>
      rw [answerOf, hraised] at hstep
      exact bind_of_error hstep
    | none =>
      rw [answerOf, hraised] at hstep
      rw [bind_of_ok hstep, runAll_toCalls steps]
      rfl

end

end ContextStep

/-! ## 5. Blocks -/

open LogContext in
/-- **Blocks from the outside and from the inside.** After a block the context is what it was
    before, whatever its steps did and however they ended. If the names are those of fields, the
    steps run, and end the block as they end; when they begin, each field that was given a value
    has it, and every other field is as outside. If a name is none of a field, nothing is set and
    no step runs: the failure is one of the value, or one of the type if the name is that of the
    context itself. No context ever has a field of another name. -/
theorem ContextCall.bind_blocks (fields : List (String × Value)) (body : List ContextCall)
    (t : Trace) :
    ((bind fields body).run t).2.context = t.context ∧
    (Named fields → ∃ inner : LogContext,
      (∀ f v, (f.name, v) ∈ fields → v.isNull = false → (∀ w, (f.name, w) ∈ fields → w = v) →
        inner.value? f = some v) ∧
      (∀ f, (∀ v, (f.name, v) ∈ fields → v.isNull = true) →
        inner.value? f = t.context.value? f) ∧
      ((bind fields body).run t).1 = (runAll body { t with context := inner }).1 ∧
      ((bind fields body).run t).2.events = (runAll body { t with context := inner }).2.events) ∧
    (¬ Named fields →
      (set fields).run t = (.error (refusal fields), t) ∧
      (bind fields body).run t = (.error (refusal fields), t) ∧
      (refusal fields).kind = if ownName ∈ fields.map (·.1) then .type else .value) ∧
    ∀ c : LogContext,
      (c.toEntries.map (·.1)).Sublist ["correlation_id", "report_type", "reporter_id"] := by
  refine ⟨?_, fun h => ?_, fun h => ?_, names_toEntries⟩
  · obtain ⟨events, hrun⟩ := run_ends (.bind fields body) t
    rw [hrun, effect]
  · have hrun := Traced.within_of_named h (runAll body) t
    refine ⟨t.context.updated fields, fun f v => value?_updated_of_mem t.context,
      fun f => value?_updated_of_null t.context, ?_⟩
    rw [run, hrun]
    exact ⟨rfl, rfl⟩
  · refine ⟨setFields_of_not_named h t, ?_, kind_refusal fields⟩
    rw [run, Traced.within_of_not_named h]

/-- **The name of the context itself is no field, and is not refused like one**: the failure is
    none of the value. -/
theorem ContextCall.own_name_refused :
    (∀ f : ContextField, f.name ≠ "cls") ∧
      ((set [("cls", .text "x")]).run ⟨.empty, []⟩).1 = .error .wrongType ∧
      Failure.wrongType.kind ≠ .value :=
  ⟨ContextField.name_ne_ownName, rfl, by decide⟩

end PeppolStatistics
