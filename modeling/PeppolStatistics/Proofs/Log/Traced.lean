import PeppolStatistics.Log.Channel
import PeppolStatistics.Proofs.Checks

/-!
# Work that logs

What logging work answers, and that it leaves the log context as it found it (`Answers`). Work in
a block with fields of the context set answers as it does inside the block (`within_answers`),
provided that the names are those of fields (`LogContext.merge_fields`).
-/

namespace PeppolStatistics

/-! ## 1. Setting fields of the context -/

theorem ContextField.name_ne_ownName (f : ContextField) : f.name ≠ LogContext.ownName := by
  cases f <;> decide

namespace LogContext

/-- The context with the values of some fields; nothing leaves a field as it is. -/
def putAll (c : LogContext) (fields : List (ContextField × Value)) : LogContext :=
  fields.foldl (fun c f => c.put f.1 f.2) c

theorem unknownNames_fields (fields : List (ContextField × Value)) :
    unknownNames (fields.map fun f => (f.1.name, f.2)) = [] := by
  have hknown : ((fields.map fun f => (f.1.name, f.2)).map (·.1)).filter
      (fun n => (ContextField.ofName? n).isNone) = [] := by
    rw [List.filter_eq_nil_iff]
    intro n hn
    rw [List.map_map] at hn
    obtain ⟨f, _, rfl⟩ := List.mem_map.mp hn
    simp
  rw [unknownNames, hknown, distinct, List.mergeSort_nil]

/-- **Fields that are called by their names** can be set. -/
theorem merge_fields (c : LogContext) (fields : List (ContextField × Value)) :
    c.merge (fields.map fun f => (f.1.name, f.2)) = .ok (c.putAll fields) := by
  have hown : ¬ ((fields.map fun f => (f.1.name, f.2)).any fun u => u.1 == ownName) = true := by
    rw [List.any_map, List.any_eq_true]
    rintro ⟨f, _, hf⟩
    exact f.1.name_ne_ownName (beq_iff_eq.mp hf)
  rw [merge, if_neg hown, unknownNames_fields, if_pos List.isEmpty_nil, putAll, List.foldl_map]
  simp only [ContextField.ofName?_name]

end LogContext

/-! ## 2. Answers -/

namespace Traced

variable {α β : Type}

/-- Work that answers something, may add lines to the log, and leaves the context as it was. -/
def Answers (work : Traced α) (t : Trace) (answer : Except Failure α) : Prop :=
  ∃ events, work t = (answer, ⟨t.context, t.events ++ events⟩)

variable {work : Traced α} {next : α → Traced β} {t : Trace}

theorem Answers.fst {answer : Except Failure α} (h : Answers work t answer) :
    (work t).1 = answer := by
  obtain ⟨events, h⟩ := h
  rw [h]

theorem pure_answers (a : α) (t : Trace) : Answers (pure a) t (.ok a) :=
  ⟨[], by rw [List.append_nil]; rfl⟩

theorem throw_answers (e : Failure) (t : Trace) : Answers (throw e : Traced α) t (.error e) :=
  ⟨[], by rw [List.append_nil]; rfl⟩

theorem ofExcept_answers (r : Except Failure α) (t : Trace) : Answers (ofExcept r) t r := by
  cases r with
  | error e => exact throw_answers e t
  | ok a => exact pure_answers a t

theorem log_answers (level : Level) (part message : String) (extra : List (String × Value))
    (fault : Option LoggedFault) (t : Trace) :
    Answers (log level part message extra fault) t (.ok ()) :=
  ⟨_, rfl⟩

/-- **Work that goes on after an answer.** -/
theorem Answers.bind {a : α} {answer : Except Failure β} (h : Answers work t (.ok a))
    (hnext : ∀ t', Answers (next a) t' answer) : Answers (work >>= next) t answer := by
  obtain ⟨events, hwork⟩ := h
  obtain ⟨events', hrest⟩ := hnext ⟨t.context, t.events ++ events⟩
  refine ⟨events ++ events', ?_⟩
  rw [bind_of_ok hwork, hrest, List.append_assoc]

/-- Work that ends with a failure. -/
theorem Answers.bind_error {e : Failure} (h : Answers work t (.error e)) :
    Answers (work >>= next) t (.error e) := by
  obtain ⟨events, hwork⟩ := h
  exact ⟨events, bind_of_error hwork⟩

/-- **Work with fields of the context set** answers as it does inside. -/
theorem within_answers {answer : Except Failure α} (fields : List (ContextField × Value))
    (h : ∀ t', Answers work t' answer) (t : Trace) :
    Answers (within (fields.map fun f => (f.1.name, f.2)) work) t answer := by
  obtain ⟨events, hwork⟩ := h { t with context := t.context.putAll fields }
  refine ⟨events, ?_⟩
  rw [within, LogContext.merge_fields]
  simp only [hwork]

end Traced

end PeppolStatistics
