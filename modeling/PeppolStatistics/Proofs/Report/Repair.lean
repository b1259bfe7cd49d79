import Mathlib.Data.List.Perm.Subperm
import PeppolStatistics.Proofs.Report.Completeness
import PeppolStatistics.Proofs.Report.DateForms

/-!
# Repairing a configuration

A configuration is diagnosed, the field that is not filled is given a value, and this is done again
until nothing is missing. A check looks at no field but those that its own repair writes, and only
the check of the period looks at fields of earlier checks; a period that is set fills both dates.
So no repair undoes an earlier one.

* `ReportConfiguration.set_of_mends`: a value that mends a field is never refused;
* `ReportConfiguration.diagnosis_after_repair`: after a repair the diagnosis names a later field, or
  nothing;
* `Repairs.ascending`: in a run of repairs every field comes once, in the order of the checks;
* `ReportConfiguration.repairs_end`: every run ends in a complete configuration, after eight
  repairs at most.
-/

namespace PeppolStatistics

/-! ## 1. What mends a field -/

namespace RequiredField

/-- The place of a field in the order of the checks. -/
def place (f : RequiredField) : Nat := all.idxOf f

/-- What has to be set to repair a field. -/
def setter : RequiredField → Setter
  | .customizationId => .customizationId
  | .profileId => .profileId
  | .startDate => .startDate
  | .endDate => .endDate
  | .period => .period
  | .reporterIdScheme => .reporterIdScheme
  | .reporterId => .reporterId
  | .items => .items

/-- **A value mends a field**: a text that is not blank, a value that stands for a date, a period,
    a collection or anything else that runs through items. -/
def Mends : RequiredField → Value → Prop
  | .customizationId, v | .profileId, v | .reporterIdScheme, v | .reporterId, v =>
    v.hasText = true
  | .startDate, v | .endDate, v => ∃ d, v.StandsFor d
  | .period, v => ∃ p, v = .period p
  | .items, v => ∃ items : List Item, v.elements? = some (items.map .item)

/-- Every collection mends the items. -/
theorem mends_collection (c : Collection) : items.Mends (.collection c) := ⟨c.items, rfl⟩

/-- Every field can be mended. -/
theorem exists_mends (f : RequiredField) : ∃ v, f.Mends v := by
  let day : Date := ⟨2000, 1, 1, by decide, by decide, by decide⟩
  cases f with
  | customizationId | profileId | reporterIdScheme | reporterId => exact ⟨.text "-", rfl⟩
  | startDate | endDate => exact ⟨.date day, day, .date day⟩
  | period => exact ⟨.period (.monthOf day), _, rfl⟩
  | items => exact ⟨.collection .empty, mends_collection .empty⟩

theorem mem_all (f : RequiredField) : f ∈ all := by cases f <;> decide

theorem eq_of_place {f g : RequiredField} (h : f.place = g.place) : f = g :=
  (List.idxOf_inj f.mem_all).mp h

/-- The fields in front of one are those with a smaller place. -/
theorem mem_before {before after : List RequiredField} {f g : RequiredField}
    (hall : all = before ++ f :: after) (h : g.place < f.place) : g ∈ before := by
  have hnodup : (before ++ f :: after).Nodup := hall ▸ (by decide : all.Nodup)
  have hf : f ∉ before := fun hmem =>
    (List.nodup_append.mp hnodup).2.2 f hmem f List.mem_cons_self rfl
  by_contra hg
  have hplace : f.place = before.length := by
    rw [place, hall, List.idxOf_append_of_notMem hf, List.idxOf_cons_self]
    rfl
  rw [hplace, place, hall, List.idxOf_append_of_notMem hg] at h
  exact absurd h (by omega)

end RequiredField

/-! ## 2. One repair -/

namespace ReportConfiguration

variable {c c' : ReportConfiguration} {f g : RequiredField} {v : Value}

theorem dateValue_injective {d d' : Option Date} (h : dateValue d = dateValue d') : d = d' := by
  cases d <;> cases d' <;> simp_all [dateValue]

/-- A check looks at the fields that its repair writes, and at no others. -/
theorem unfilled_congr (h : ∀ x ∈ g.setter.fields, c'.value x = c.value x) :
    c'.Unfilled g ↔ c.Unfilled g := by
  cases g with
  | customizationId | profileId | reporterIdScheme | reporterId | items =>
    have hvalue := h _ List.mem_cons_self
    simp only [value] at hvalue
    rw [Unfilled, Unfilled, hvalue]
  | startDate | endDate =>
    have hvalue := dateValue_injective (h _ List.mem_cons_self)
    rw [Unfilled, Unfilled, hvalue]
  | period =>
    have hstart := dateValue_injective (h .startDate (by decide))
    have hend := dateValue_injective (h .endDate (by decide))
    rw [Unfilled, Unfilled, hstart, hend]

/-- **What mends a field is never refused**, and the field is filled then. -/
theorem set_of_mends (c : ReportConfiguration) (hv : f.Mends v) :
    ∃ c', c.set f.setter v = .ok c' ∧ ¬ c'.Unfilled f := by
  cases f with
  | customizationId | profileId | reporterIdScheme | reporterId =>
    refine ⟨_, rfl, fun hunfilled => ?_⟩
    have hblank := Value.blank_iff.mp hunfilled
    exact Bool.false_ne_true (hblank.symm.trans hv)
  | startDate =>
    obtain ⟨d, hd⟩ := hv
    exact ⟨_, c.set_startDate_of_standsFor hd, Option.some_ne_none d⟩
  | endDate =>
    obtain ⟨d, hd⟩ := hv
    exact ⟨_, c.set_endDate_of_standsFor hd, Option.some_ne_none d⟩
  | period =>
    obtain ⟨p, rfl⟩ := hv
    refine ⟨_, rfl, fun hunfilled => ?_⟩
    obtain ⟨first, last, hfirst, hlast, hlt⟩ := hunfilled
    cases hfirst
    cases hlast
    exact p.ordered hlt
  | items =>
    obtain ⟨items, hitems⟩ := hv
    have hset := itemsOf_eq_ok_iff.mpr (Or.inr ⟨⟨items⟩, hitems, rfl⟩)
    refine ⟨_, map_eq_ok.mpr ⟨_, hset, rfl⟩, fun hunfilled => ?_⟩
    cases hunfilled

theorem filled_of_mends (hv : f.Mends v) (h : c.set f.setter v = .ok c') : ¬ c'.Unfilled f := by
  obtain ⟨c'', hset, hfilled⟩ := c.set_of_mends hv
  cases hset.symm.trans h
  exact hfilled

/-- A repair keeps filled what is checked before: either it writes none of the fields that an
    earlier check looks at, or it sets the period, which fills both dates. -/
theorem filled_of_earlier (hv : f.Mends v) (h : c.set f.setter v = .ok c')
    (hplace : g.place < f.place) (hg : ¬ c.Unfilled g) : ¬ c'.Unfilled g := by
  by_cases hdates : f = .period ∧ (g = .startDate ∨ g = .endDate)
  · obtain ⟨rfl, hg'⟩ := hdates
    obtain ⟨p, rfl⟩ := hv
    cases h
    rcases hg' with rfl | rfl
    · exact Option.some_ne_none p.first
    · exact Option.some_ne_none p.last
  · have hother : ∀ x ∈ g.setter.fields, x ∉ f.setter.fields := by
      revert hplace hdates
      cases f <;> cases g <;> decide
    have hkept : c'.Unfilled g ↔ c.Unfilled g :=
      unfilled_congr fun x hx => set_other h (hother x hx)
    exact mt hkept.mp hg

/-- **After a repair the diagnosis names a later field, or nothing.** -/
theorem diagnosis_after_repair (hf : c.firstIncomplete? = some f) (hv : f.Mends v)
    (h : c.set f.setter v = .ok c') :
    ∀ g, c'.firstIncomplete? = some g → f.place < g.place := by
  intro g hg
  obtain ⟨_, before, after, hall, hbefore⟩ := firstIncomplete?_eq_some_iff.mp hf
  obtain ⟨hunfilled, _⟩ := firstIncomplete?_eq_some_iff.mp hg
  by_contra hle
  by_cases hplace : g.place < f.place
  · have hfilled := hbefore g (RequiredField.mem_before hall hplace)
    exact filled_of_earlier hv h hplace hfilled hunfilled
  · have hgf : g = f := RequiredField.eq_of_place (by omega)
    exact filled_of_mends hv h (hgf ▸ hunfilled)

end ReportConfiguration

/-! ## 3. Runs of repairs -/

open ReportConfiguration

/-- **Some repairs one after the other**, each of the field that is diagnosed at that time, with a
    value that mends it. -/
inductive Repairs : ReportConfiguration → List RequiredField → ReportConfiguration → Prop
  | done (c : ReportConfiguration) : Repairs c [] c
  | repair {c c₁ c' : ReportConfiguration} {f : RequiredField} {fs : List RequiredField} {v : Value}
      (hf : c.firstIncomplete? = some f) (hv : f.Mends v) (h : c.set f.setter v = .ok c₁)
      (hrest : Repairs c₁ fs c') : Repairs c (f :: fs) c'

namespace Repairs

variable {c c' : ReportConfiguration} {fs : List RequiredField}

/-- The first field to be repaired is the one that is diagnosed. -/
theorem head_eq {f : RequiredField} (h : Repairs c (f :: fs) c') :
    c.firstIncomplete? = some f := by
  cases h with
  | repair hf => exact hf

/-- **Every field is repaired once, in the order of the checks.** By induction on the repairs: the
    next field has a later place than the one before, and so have all further ones. -/
theorem ascending (h : Repairs c fs c') : fs.Pairwise fun f g => f.place < g.place := by
  induction h with
  | done => exact .nil
  | @repair c c₁ c' f fs v hf hv hset hrest ih =>
    refine .cons (fun g hg => ?_) ih
    cases fs with
    | nil => exact absurd hg List.not_mem_nil
    | cons next fs =>
      have hnext : f.place < next.place := diagnosis_after_repair hf hv hset next hrest.head_eq
      rcases List.mem_cons.mp hg with rfl | hg
      · exact hnext
      · exact Nat.lt_trans hnext (List.rel_of_pairwise_cons ih hg)

/-- There are no more repairs than checks. -/
theorem length_le (h : Repairs c fs c') : fs.length ≤ RequiredField.all.length := by
  have hnodup : fs.Nodup := h.ascending.imp fun hlt heq => absurd (heq ▸ hlt) (Nat.lt_irrefl _)
  exact (hnodup.subperm fun f _ => f.mem_all).length_le

/-- Nothing changes but what the repairs write. -/
theorem value_eq (h : Repairs c fs c') {x : ConfigurationField}
    (hx : ∀ f ∈ fs, x ∉ f.setter.fields) : c'.value x = c.value x := by
  induction h with
  | done => rfl
  | repair _ _ hset _ ih =>
    rw [ih fun g hg => hx g (List.mem_cons_of_mem _ hg)]
    exact set_other hset (hx _ List.mem_cons_self)

/-- A further repair. -/
theorem concat {c'' : ReportConfiguration} {f : RequiredField} {v : Value} (h : Repairs c fs c')
    (hf : c'.firstIncomplete? = some f) (hv : f.Mends v) (hset : c'.set f.setter v = .ok c'') :
    Repairs c (fs ++ [f]) c'' := by
  induction h with
  | done c => exact .repair hf hv hset (.done c'')
  | repair hf₁ hv₁ hset₁ _ ih => exact .repair hf₁ hv₁ hset₁ (ih hf hset)

/-- After as many repairs as there are checks nothing is missing: one more repair could be made
    otherwise. -/
theorem complete_of_length (h : Repairs c fs c') (hlength : fs.length = RequiredField.all.length) :
    c'.firstIncomplete? = none := by
  cases hdiagnosis : c'.firstIncomplete? with
  | none => rfl
  | some f =>
    obtain ⟨v, hv⟩ := f.exists_mends
    obtain ⟨c'', hset, _⟩ := c'.set_of_mends hv
    have hmore := (h.concat hdiagnosis hv hset).length_le
    rw [List.length_append, hlength] at hmore
    exact absurd hmore (Nat.not_succ_le_self _)

end Repairs

/-! ## 4. Repairing until nothing is missing -/

namespace ReportConfiguration

/-- Diagnoses and repairs up to `n` times. The value that a field is given may be another one in
    every round; `n` is the number of rounds that are left. -/
def mend (pick : Nat → RequiredField → Value) :
    Nat → ReportConfiguration → Except Failure ReportConfiguration
  | 0, c => .ok c
  | n + 1, c =>
    match c.firstIncomplete? with
    | none => .ok c
    | some f => do mend pick n (← c.set f.setter (pick n f))

/-- Mending is a run of repairs: it ends early only where nothing is missing. -/
theorem mend_repairs {pick : Nat → RequiredField → Value}
    (hpick : ∀ n (f : RequiredField), f.Mends (pick n f)) (n : Nat) (c : ReportConfiguration) :
    ∃ fs c', c.mend pick n = .ok c' ∧ Repairs c fs c' ∧
      (c'.firstIncomplete? = none ∨ fs.length = n) := by
  induction n generalizing c with
  | zero => exact ⟨[], c, rfl, .done c, .inr rfl⟩
  | succ n ih =>
    unfold mend
    cases hf : c.firstIncomplete? with
    | none => exact ⟨[], c, rfl, .done c, .inl hf⟩
    | some f =>
      obtain ⟨c₁, hset, _⟩ := c.set_of_mends (hpick n f)
      obtain ⟨fs, c', hmend, hrest, hend⟩ := ih c₁
      refine ⟨f :: fs, c', ?_, .repair hf (hpick n f) hset hrest, hend.imp_right (congrArg (· + 1))⟩
      show (c.set f.setter (pick n f)).bind (mend pick n) = _
      rw [hset]
      exact hmend

/-- **Diagnosing and repairing comes to an end, whatever values are chosen.** A value that mends
    the field that is diagnosed is accepted, changes nothing else, and moves the diagnosis to a
    later field or to none. In a run of such repairs every field comes once at most, in the order
    of the checks, so that there are eight repairs at most; and a configuration that is mended
    eight times is complete. -/
theorem repairs_end (c : ReportConfiguration) :
    (∀ (f : RequiredField) (v : Value), c.firstIncomplete? = some f → f.Mends v →
      ∃ c', c.set f.setter v = .ok c' ∧
        (∀ x, x ∉ f.setter.fields → c'.value x = c.value x) ∧
        ∀ g, c'.firstIncomplete? = some g → f.place < g.place) ∧
    (∀ fs c', Repairs c fs c' →
      fs.Pairwise (fun f g => f.place < g.place) ∧ fs.length ≤ 8 ∧
        ∀ x, (∀ f ∈ fs, x ∉ f.setter.fields) → c'.value x = c.value x) ∧
    (∀ pick : Nat → RequiredField → Value, (∀ n (f : RequiredField), f.Mends (pick n f)) →
      ∃ fs c', c.mend pick 8 = .ok c' ∧ Repairs c fs c' ∧ c'.isComplete = true) := by
  refine ⟨fun f v hf hv => ?_, fun fs c' h => ⟨h.ascending, h.length_le, fun x => h.value_eq⟩,
    fun pick hpick => ?_⟩
  · obtain ⟨c', hset, _⟩ := c.set_of_mends hv
    exact ⟨c', hset, fun x hx => set_other hset hx, diagnosis_after_repair hf hv hset⟩
  · obtain ⟨fs, c', hmend, hrun, hend⟩ := mend_repairs hpick 8 c
    have hcomplete : c'.firstIncomplete? = none := hend.elim id hrun.complete_of_length
    refine ⟨fs, c', hmend, hrun, ?_⟩
    rw [isComplete, hcomplete]
    rfl

/-- Values for a report on February, once its end has been given before its start. -/
def lateStart : Nat → RequiredField → Value
  | _, .customizationId | _, .profileId | _, .reporterIdScheme | _, .reporterId => .text "x"
  | _, .startDate => .date ((Date.ofParts? 2024 3 1).get (by decide))
  | _, .endDate => .dateTime lateOnLeapDay
  | _, .period => .period (.monthOf lateOnLeapDay.date)
  | _, .items => .collection .empty

/-- All eight repairs may be needed: the dates of an empty configuration are filled in the wrong
    order, and the items are missing up to the last round. -/
theorem repairs_end_lateStart :
    (∀ n (f : RequiredField), f.Mends (lateStart n f)) ∧
    (∃ fs c', mend lateStart 8 {} = .ok c' ∧ Repairs {} fs c' ∧ c'.isComplete = true) ∧
    (mend lateStart 7 {}).toOption.bind (·.firstIncomplete?) = some .items := by
  have hpick : ∀ n (f : RequiredField), f.Mends (lateStart n f) := by
    intro n f
    cases f with
    | customizationId | profileId | reporterIdScheme | reporterId => exact rfl
    | startDate => exact ⟨_, .date _⟩
    | endDate => exact ⟨_, .dateTime lateOnLeapDay⟩
    | period => exact ⟨_, rfl⟩
    | items => exact RequiredField.mends_collection .empty
  exact ⟨hpick, (repairs_end {}).2.2 lateStart hpick, by decide⟩

end ReportConfiguration

end PeppolStatistics
