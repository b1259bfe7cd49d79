import Mathlib.Data.List.Induction
import PeppolStatistics.Proofs.Log.Traced
import PeppolStatistics.Proofs.Value.Dates
import PeppolStatistics.Report.Builder

/-!
# What a run of setter calls leaves behind

A builder is set up by calls of its setters, any of which may fail on its argument. `Gives` says on
its own, without the builder, which field a call gives which value to.

* `ReportConfiguration.set_own`, `set_other`, `set_of_gives`: one call, field by field; a call gives
  a field one value only (`gives_unique`);
* `LastGiven`: the value of a field after some calls, as the last of them gave it;
* `ReportBuilder.configuration_after_calls`: the configuration after any run of calls.
-/

namespace PeppolStatistics

/-! ## 1. Fields -/

/-- The fields of a configuration. -/
inductive ConfigurationField where
  | customizationId
  | profileId
  | startDate
  | endDate
  | reporterIdScheme
  | reporterId
  | items
deriving DecidableEq, Repr

namespace ConfigurationField

/-- All fields. -/
def all : List ConfigurationField :=
  [.customizationId, .profileId, .startDate, .endDate, .reporterIdScheme, .reporterId, .items]

/-- The name of a field. -/
def name : ConfigurationField → String
  | .customizationId => "customization_id"
  | .profileId => "profile_id"
  | .startDate => "start_date"
  | .endDate => "end_date"
  | .reporterIdScheme => "reporter_id_scheme"
  | .reporterId => "reporter_id"
  | .items => "items"

end ConfigurationField

/-- The fields that a setter writes. -/
def Setter.fields : Setter → List ConfigurationField
  | .customizationId => [.customizationId]
  | .profileId => [.profileId]
  | .startDate => [.startDate]
  | .endDate => [.endDate]
  | .period => [.startDate, .endDate]
  | .monthOf => [.startDate, .endDate]
  | .reporterIdScheme => [.reporterIdScheme]
  | .reporterId => [.reporterId]
  | .items => [.items]

namespace ReportConfiguration

/-- A date as a value, or nothing. -/
def dateValue : Option Date → Value
  | none => .null
  | some d => .date d

/-- The value of a field. -/
def value (c : ReportConfiguration) : ConfigurationField → Value
  | .customizationId => c.customizationId
  | .profileId => c.profileId
  | .startDate => dateValue c.startDate
  | .endDate => dateValue c.endDate
  | .reporterIdScheme => c.reporterIdScheme
  | .reporterId => c.reporterId
  | .items => c.items

/-- All fields with their names. -/
def toFields (c : ReportConfiguration) : List (String × Value) :=
  ConfigurationField.all.map fun f => (f.name, c.value f)

theorem dateValue_normal (d : Option Date) :
    dateValue d = .null ∨ ∃ d', dateValue d = .date d' := by
  cases d with
  | none => exact Or.inl rfl
  | some d => exact Or.inr ⟨d, rfl⟩

theorem dateOrNone_dateValue (d : Option Date) : dateOrNone (dateValue d) = .ok d := by
  cases d <;> rfl

/-- **A configuration is normal**: when it is made anew from its fields, which reduces the dates
    again, it is the same. -/
theorem ofFields_toFields (c : ReportConfiguration) : ofFields c.toFields = .ok c := by
  have hstart : (c.toFields.lookup "start_date").getD .null = dateValue c.startDate := rfl
  have hend : (c.toFields.lookup "end_date").getD .null = dateValue c.endDate := rfl
  have hnames : (c.toFields.all fun f => fieldNames.contains f.1) = true := rfl
  simp only [ofFields, hnames, hstart, hend, dateOrNone_dateValue, ok_bind, if_true]
  rfl

end ReportConfiguration

/-! ## 2. What a call gives -/

/-- A call of a setter with an argument of any kind. -/
structure SetterCall where
  setter : Setter
  argument : Value

/-- **A call gives a value to a field.** Texts are taken as they are; dates are reduced to calendar
    dates; a period and the month of a date give both dates; items are gathered in a collection;
    and nothing clears. No other call gives anything. -/
inductive SetterCall.Gives : SetterCall → ConfigurationField → Value → Prop where
  | customizationId (v : Value) : Gives ⟨.customizationId, v⟩ .customizationId v
  | profileId (v : Value) : Gives ⟨.profileId, v⟩ .profileId v
  | reporterIdScheme (v : Value) : Gives ⟨.reporterIdScheme, v⟩ .reporterIdScheme v
  | reporterId (v : Value) : Gives ⟨.reporterId, v⟩ .reporterId v
  | startDate {v : Value} {d : Date} (h : v.StandsFor d) : Gives ⟨.startDate, v⟩ .startDate (.date d)
  | noStartDate : Gives ⟨.startDate, .null⟩ .startDate .null
  | endDate {v : Value} {d : Date} (h : v.StandsFor d) : Gives ⟨.endDate, v⟩ .endDate (.date d)
  | noEndDate : Gives ⟨.endDate, .null⟩ .endDate .null
  | periodStart (p : ReportPeriod) : Gives ⟨.period, .period p⟩ .startDate (.date p.first)
  | periodEnd (p : ReportPeriod) : Gives ⟨.period, .period p⟩ .endDate (.date p.last)
  | noPeriodStart : Gives ⟨.period, .null⟩ .startDate .null
  | noPeriodEnd : Gives ⟨.period, .null⟩ .endDate .null
  | monthStart {v : Value} {d : Date} (h : v.StandsFor d) :
      Gives ⟨.monthOf, v⟩ .startDate (.date d.firstOf)
  | monthEnd {v : Value} {d : Date} (h : v.StandsFor d) :
      Gives ⟨.monthOf, v⟩ .endDate (.date d.lastOf)
  | noMonthStart : Gives ⟨.monthOf, .null⟩ .startDate .null
  | noMonthEnd : Gives ⟨.monthOf, .null⟩ .endDate .null
  | items {v : Value} {items : List Item} (h : v.elements? = some (items.map .item)) :
      Gives ⟨.items, v⟩ .items (.collection ⟨items⟩)
  | noItems : Gives ⟨.items, .null⟩ .items .null

theorem SetterCall.Gives.mem_fields {call : SetterCall} {f : ConfigurationField} {w : Value}
    (h : call.Gives f w) : f ∈ call.setter.fields := by
  cases h <;> simp [Setter.fields]

/-! ## 3. Items -/

/-- Values pass as items exactly if each of them is one. -/
theorem Collection.checkItems_eq_ok_iff {n : Nat} {vs : List Value} {items : List Item} :
    checkItems n vs = .ok items ↔ vs = items.map .item := by
  induction vs generalizing n items with
  | nil =>
    rw [checkItems]
    cases items <;> simp
  | cons v vs ih =>
    cases v with
    | item i =>
      simp only [checkItems, bind_eq_ok, ih]
      cases items with
      | nil =>
        constructor
        · rintro ⟨rest, _, h⟩
          cases h
        · intro h
          cases h
      | cons j items =>
        constructor
        · rintro ⟨rest, rfl, h⟩
          cases h
          rfl
        · intro h
          cases h
          exact ⟨items, rfl, rfl⟩
    | _ => cases items <;> simp [checkItems]

theorem Collection.ofValue_eq_ok_iff {v : Value} {c : Collection} :
    ofValue v = .ok c ↔ v.elements? = some (c.items.map .item) := by
  unfold ofValue
  split
  · simp [Value.elements?, Value.asText?]
  · split
    · rename_i helements
      simp [helements]
    · rename_i vs helements
      simp only [map_eq_ok, checkItems_eq_ok_iff, helements, Option.some.injEq]
      constructor
      · rintro ⟨items, hvs, rfl⟩
        exact hvs
      · intro hvs
        exact ⟨c.items, hvs, rfl⟩

namespace ReportConfiguration

variable {c c' : ReportConfiguration} {s : Setter} {v w : Value}

/-- A collection runs through its items, so it need not be told apart from other values. -/
theorem itemsOf_of_ne_null (hv : v ≠ .null) : itemsOf v = (Collection.ofValue v).map .collection := by
  unfold itemsOf
  split
  · exact absurd rfl hv
  · rename_i c
    rw [Collection.ofValue_eq_ok_iff.mpr (rfl : (Value.collection c).elements? = _)]
    rfl
  · rfl

/-- What items are set to: nothing, or the collection of the items that a value runs through. -/
theorem itemsOf_eq_ok_iff :
    itemsOf v = .ok w ↔
      (v = .null ∧ w = .null) ∨
        ∃ items : Collection, v.elements? = some (items.items.map .item) ∧ .collection items = w := by
  by_cases hv : v = .null
  · subst hv
    simp [itemsOf, Value.elements?, Value.asText?, eq_comm]
  · simp only [itemsOf_of_ne_null hv, map_eq_ok, Collection.ofValue_eq_ok_iff, hv, false_and,
      false_or]

/-! ## 4. One call -/

/-- What a date is set to: nothing, or the date that a value stands for. -/
theorem dateOrNone_eq_ok_iff {o : Option Date} :
    dateOrNone v = .ok o ↔ (v = .null ∧ o = none) ∨ ∃ d, v.StandsFor d ∧ some d = o := by
  by_cases hv : v = .null
  · subst hv
    have hnone (d : Date) : ¬ Value.StandsFor .null d := fun h => h.ne_null rfl
    simp [dateOrNone, hnone, eq_comm]
  · rw [dateOrNone]
    · simp only [map_eq_ok, Value.calendarDate_eq_ok_iff, hv, false_and, false_or]
    · exact hv

/-- What the period is set to: nothing, or a period. -/
theorem set_period (h : c.set .period v = .ok c') :
    (v = .null ∧ c' = c.withPeriod none) ∨ ∃ p, v = .period p ∧ c' = c.withPeriod (some p) := by
  cases v with
  | null => exact Or.inl ⟨rfl, (Except.ok.inj h).symm⟩
  | period p => exact Or.inr ⟨p, rfl, (Except.ok.inj h).symm⟩
  | _ => cases h

/-- What the month is set to: nothing, or the month of the date that a value stands for. -/
theorem set_monthOf (h : c.set .monthOf v = .ok c') :
    (v = .null ∧ c' = c.withPeriod none) ∨
      ∃ d, v.StandsFor d ∧ c' = c.withPeriod (some (.monthOf d)) := by
  unfold set at h
  simp only at h
  split at h
  · exact Or.inl ⟨rfl, (Except.ok.inj h).symm⟩
  · obtain ⟨p, hp, rfl⟩ := map_eq_ok.mp h
    obtain ⟨d, hd, rfl⟩ := map_eq_ok.mp hp
    exact Or.inr ⟨d, Value.calendarDate_eq_ok_iff.mp hd, rfl⟩

theorem set_monthOf_of_standsFor (c : ReportConfiguration) {d : Date} (h : v.StandsFor d) :
    c.set .monthOf v = .ok (c.withPeriod (some (.monthOf d))) := by
  rw [set]
  · rw [Value.calendarMonth, Value.calendarDate_eq_ok_iff.mpr h]
    rfl
  · exact h.ne_null

/-- A period gives no field a value but the two dates. -/
theorem value_withPeriod {f : ConfigurationField} (hf : f ∉ [.startDate, .endDate])
    (p : Option ReportPeriod) : (c.withPeriod p).value f = c.value f := by
  cases p <;> cases f <;> first | rfl | exact absurd (by decide) hf

/-- A call changes no field but those that its setter writes. -/
theorem set_other (h : c.set s v = .ok c') {f : ConfigurationField} (hf : f ∉ s.fields) :
    c'.value f = c.value f := by
  cases s with
  | period =>
    obtain ⟨_, rfl⟩ | ⟨p, _, rfl⟩ := set_period h
    · exact value_withPeriod hf none
    · exact value_withPeriod hf (some p)
  | monthOf =>
    obtain ⟨_, rfl⟩ | ⟨d, _, rfl⟩ := set_monthOf h
    · exact value_withPeriod hf none
    · exact value_withPeriod hf (some (.monthOf d))
  | startDate | endDate | items =>
    obtain ⟨_, _, rfl⟩ := map_eq_ok.mp h
    cases f <;> first | rfl | exact absurd (List.mem_singleton_self _) hf
  | customizationId | profileId | reporterIdScheme | reporterId =>
    cases h
    cases f <;> first | rfl | exact absurd (List.mem_singleton_self _) hf

/-- **A call that does not fail** gives every field that its setter writes its value. -/
theorem set_own (h : c.set s v = .ok c') {f : ConfigurationField} (hf : f ∈ s.fields) :
    SetterCall.Gives ⟨s, v⟩ f (c'.value f) := by
  cases s with
  | customizationId | profileId | reporterIdScheme | reporterId =>
    cases h
    obtain rfl := List.mem_singleton.mp hf
    constructor
  | startDate =>
    obtain ⟨o, ho, rfl⟩ := map_eq_ok.mp h
    obtain rfl := List.mem_singleton.mp hf
    obtain ⟨rfl, rfl⟩ | ⟨d, hd, rfl⟩ := dateOrNone_eq_ok_iff.mp ho
    · exact .noStartDate
    · exact .startDate hd
  | endDate =>
    obtain ⟨o, ho, rfl⟩ := map_eq_ok.mp h
    obtain rfl := List.mem_singleton.mp hf
    obtain ⟨rfl, rfl⟩ | ⟨d, hd, rfl⟩ := dateOrNone_eq_ok_iff.mp ho
    · exact .noEndDate
    · exact .endDate hd
  | items =>
    obtain ⟨w, hw, rfl⟩ := map_eq_ok.mp h
    obtain rfl := List.mem_singleton.mp hf
    obtain ⟨rfl, rfl⟩ | ⟨items, hitems, rfl⟩ := itemsOf_eq_ok_iff.mp hw
    · exact .noItems
    · exact .items hitems
  | period =>
    obtain ⟨rfl, rfl⟩ | ⟨p, rfl, rfl⟩ := set_period h <;>
      obtain rfl | rfl := List.mem_pair.mp hf
    · exact .noPeriodStart
    · exact .noPeriodEnd
    · exact .periodStart p
    · exact .periodEnd p
  | monthOf =>
    obtain ⟨rfl, rfl⟩ | ⟨d, hd, rfl⟩ := set_monthOf h <;>
      obtain rfl | rfl := List.mem_pair.mp hf
    · exact .noMonthStart
    · exact .noMonthEnd
    · exact .monthStart hd
    · exact .monthEnd hd

/-- **A call that gives a field a value** does not fail, and the field has the value. -/
theorem set_of_gives {call : SetterCall} {f : ConfigurationField} (h : call.Gives f w)
    (c : ReportConfiguration) :
    ∃ c', c.set call.setter call.argument = .ok c' ∧ c'.value f = w := by
  cases h with
  | startDate h | endDate h =>
    have hdate := dateOrNone_eq_ok_iff.mpr (Or.inr ⟨_, h, rfl⟩)
    exact ⟨_, map_eq_ok.mpr ⟨_, hdate, rfl⟩, rfl⟩
  | monthStart h | monthEnd h => exact ⟨_, set_monthOf_of_standsFor c h, rfl⟩
  | items h =>
    have hitems := itemsOf_eq_ok_iff.mpr (Or.inr ⟨⟨_⟩, h, rfl⟩)
    exact ⟨_, map_eq_ok.mpr ⟨_, hitems, rfl⟩, rfl⟩
  | _ => exact ⟨_, rfl, rfl⟩

/-- A call gives a field one value only. -/
theorem gives_unique {call : SetterCall} {f : ConfigurationField} {w' : Value}
    (h : call.Gives f w) (h' : call.Gives f w') : w = w' := by
  obtain ⟨c, hset, hvalue⟩ := set_of_gives h {}
  obtain ⟨c', hset', hvalue'⟩ := set_of_gives h' {}
  obtain rfl := Except.ok.inj (hset.symm.trans hset')
  exact hvalue.symm.trans hvalue'

/-- A call fails or not whatever the configuration was before. -/
theorem gives_iff (c : ReportConfiguration) (call : SetterCall) (f : ConfigurationField) :
    (∃ w, call.Gives f w) ↔
      f ∈ call.setter.fields ∧ ∃ c', c.set call.setter call.argument = .ok c' := by
  constructor
  · rintro ⟨w, h⟩
    obtain ⟨c', hset, _⟩ := set_of_gives h c
    exact ⟨h.mem_fields, c', hset⟩
  · rintro ⟨hf, c', h⟩
    exact ⟨_, set_own h hf⟩

end ReportConfiguration

/-! ## 5. Runs of calls -/

/-- **What a field holds after some calls**: the value that the last of those that give it one
    gives it, or the value from before if none does. -/
def LastGiven (calls : List SetterCall) (f : ConfigurationField) (before now : Value) : Prop :=
  (∃ earlier call later, calls = earlier ++ call :: later ∧ call.Gives f now ∧
      ∀ c ∈ later, ∀ w, ¬ c.Gives f w) ∨
    ((∀ c ∈ calls, ∀ w, ¬ c.Gives f w) ∧ now = before)

namespace LastGiven

variable {calls : List SetterCall} {call : SetterCall} {f : ConfigurationField} {before now : Value}

theorem nil : LastGiven [] f before before :=
  Or.inr ⟨fun _ hc => absurd hc List.not_mem_nil, rfl⟩

/-- A further call that gives the field a value. -/
theorem concat (h : call.Gives f now) : LastGiven (calls ++ [call]) f before now :=
  Or.inl ⟨calls, call, [], rfl, h, fun _ hc => absurd hc List.not_mem_nil⟩

/-- A further call that gives the field nothing. -/
theorem concat_other (hlast : LastGiven calls f before now) (h : ∀ w, ¬ call.Gives f w) :
    LastGiven (calls ++ [call]) f before now := by
  obtain ⟨earlier, c, later, rfl, hgives, hlater⟩ | ⟨hnone, rfl⟩ := hlast
  · refine Or.inl ⟨earlier, c, later ++ [call], by simp, hgives, fun c' hc' => ?_⟩
    obtain hc' | hc' := List.mem_append.mp hc'
    · exact hlater c' hc'
    · exact List.mem_singleton.mp hc' ▸ h
  · refine Or.inr ⟨fun c' hc' => ?_, rfl⟩
    obtain hc' | hc' := List.mem_append.mp hc'
    · exact hnone c' hc'
    · exact List.mem_singleton.mp hc' ▸ h

/-- What holds of the value from before and of every value that is given holds in the end. -/
theorem holds {P : Value → Prop} (hlast : LastGiven calls f before now) (hbefore : P before)
    (hgives : ∀ c w, SetterCall.Gives c f w → P w) : P now := by
  obtain ⟨_, c, _, _, h, _⟩ | ⟨_, rfl⟩ := hlast
  · exact hgives c _ h
  · exact hbefore

end LastGiven

namespace ReportBuilder

open Traced

/-- A call whose failure is caught: the builder and the log afterwards. -/
def apply (p : ReportBuilder × Trace) (call : SetterCall) : ReportBuilder × Trace :=
  match p.1.set call.setter call.argument p.2 with
  | (.ok b, t) => (b, t)
  | (.error _, t) => (p.1, t)

/-- The builder of a kind of report after some calls, from the default configuration on. -/
def afterCalls (kind : ReportKind) (dimensions : List Value) (t : Trace) (calls : List SetterCall) :
    ReportBuilder × Trace :=
  calls.foldl apply (⟨kind, dimensions, .default kind⟩, t)

variable {b : ReportBuilder} {s : Setter} {v : Value}

/-- A call that does not fail may log that a collection was made. -/
theorem set_answers {c : ReportConfiguration} (h : b.configuration.set s v = .ok c) (t : Trace) :
    Answers (b.set s v) t (.ok { b with configuration := c }) := by
  rw [set, h]
  refine (ofExcept_answers (.ok c) t).bind fun t₁ => ?_
  split
  · exact pure_answers _ t₁
  · exact (log_answers _ _ _ _ _ t₁).bind fun t₂ => pure_answers _ t₂
  · exact pure_answers _ t₁

/-- A call that fails logs nothing. -/
theorem set_fails {e : Failure} (h : b.configuration.set s v = .error e) (t : Trace) :
    b.set s v t = (.error e, t) := by
  rw [set, h]
  rfl

/-- **A call fails** or not as it does on the configuration. -/
theorem set_eq_ok_iff (b : ReportBuilder) (s : Setter) (v : Value) (t : Trace) :
    (∃ b', (b.set s v t).1 = .ok b') ↔ ∃ c, b.configuration.set s v = .ok c := by
  cases h : b.configuration.set s v with
  | error e => simp [set_fails h t]
  | ok c => simp [(set_answers h t).fst]

/-! ## 6. The configuration after a run -/

variable {p : ReportBuilder × Trace} {call : SetterCall} {f : ConfigurationField}

theorem configuration_apply_of_ok {c : ReportConfiguration}
    (h : p.1.configuration.set call.setter call.argument = .ok c) :
    (apply p call).1.configuration = c := by
  obtain ⟨events, hset⟩ := set_answers h p.2
  rw [apply, hset]

theorem apply_of_error {e : Failure}
    (h : p.1.configuration.set call.setter call.argument = .error e) : apply p call = p := by
  rw [apply, set_fails h p.2]

/-- A call that fails leaves everything as it was. -/
theorem apply_of_fails {e : Failure} (h : (p.1.set call.setter call.argument p.2).1 = .error e) :
    apply p call = p := by
  cases hset : p.1.configuration.set call.setter call.argument with
  | error e' => exact apply_of_error hset
  | ok c =>
    rw [(set_answers hset p.2).fst] at h
    cases h

/-- **One call**: a field gets what the call gives it, or keeps what it holds. -/
theorem value_apply (p : ReportBuilder × Trace) (call : SetterCall) (f : ConfigurationField) :
    call.Gives f ((apply p call).1.configuration.value f) ∨
      (∀ w, ¬ call.Gives f w) ∧
        (apply p call).1.configuration.value f = p.1.configuration.value f := by
  cases h : p.1.configuration.set call.setter call.argument with
  | error e =>
    refine Or.inr ⟨fun w hw => ?_, by rw [apply_of_error h]⟩
    obtain ⟨c, hc, _⟩ := ReportConfiguration.set_of_gives hw p.1.configuration
    rw [h] at hc
    cases hc
  | ok c =>
    rw [configuration_apply_of_ok h]
    by_cases hf : f ∈ call.setter.fields
    · exact Or.inl (ReportConfiguration.set_own h hf)
    · exact Or.inr ⟨fun w hw => hf hw.mem_fields, ReportConfiguration.set_other h hf⟩

/-- **A run of calls**: a field holds what the last call gave it. -/
theorem lastGiven_foldl (p : ReportBuilder × Trace) (calls : List SetterCall)
    (f : ConfigurationField) :
    LastGiven calls f (p.1.configuration.value f)
      ((calls.foldl apply p).1.configuration.value f) := by
  induction calls using List.reverseRecOn with
  | nil => exact .nil
  | append_singleton calls call ih =>
    rw [List.foldl_append]
    obtain hgives | ⟨hnone, hkept⟩ := value_apply (calls.foldl apply p) call f
    · exact .concat hgives
    · exact hkept ▸ ih.concat_other hnone

end ReportBuilder

/-- **A configuration in its normal form**: the dates are calendar dates or nothing, the items a
    collection or nothing, and making it anew from its fields changes nothing. -/
structure ReportConfiguration.Normal (c : ReportConfiguration) : Prop where
  startDate : c.value .startDate = .null ∨ ∃ d, c.value .startDate = .date d
  endDate : c.value .endDate = .null ∨ ∃ d, c.value .endDate = .date d
  items : c.value .items = .null ∨ ∃ items, c.value .items = .collection items
  again : ofFields c.toFields = .ok c

theorem SetterCall.Gives.items_normal {call : SetterCall} {w : Value} (h : call.Gives .items w) :
    w = .null ∨ ∃ items, w = .collection items := by
  cases h with
  | items => exact Or.inr ⟨_, rfl⟩
  | noItems => exact Or.inl rfl

theorem ReportConfiguration.normal_of_items {c : ReportConfiguration}
    (h : c.value .items = .null ∨ ∃ items, c.value .items = .collection items) : c.Normal where
  startDate := dateValue_normal c.startDate
  endDate := dateValue_normal c.endDate
  items := h
  again := c.ofFields_toFields

namespace ReportBuilder

/-- **The configuration after any run of calls** on a builder with the default configuration.
    Each field holds what the last of the calls gave it that did not fail and writes it, or else
    its default; a call that fails changes neither the builder nor the log; and the configuration
    is in its normal form. The written form of a date stands for the date, and that of a point in
    time for the date on its own clock. -/
theorem configuration_after_calls (kind : ReportKind) (dimensions : List Value) (t : Trace)
    (calls : List SetterCall) :
    (∀ f, LastGiven calls f ((ReportConfiguration.default kind).value f)
      ((afterCalls kind dimensions t calls).1.configuration.value f)) ∧
    (∀ (call : SetterCall) (f : ConfigurationField) (b : ReportBuilder) (t' : Trace),
      (∃ w, call.Gives f w) ↔
        f ∈ call.setter.fields ∧ ∃ b', (b.set call.setter call.argument t').1 = .ok b') ∧
    (∀ (call : SetterCall) (e : Failure),
      ((afterCalls kind dimensions t calls).1.set call.setter call.argument
        (afterCalls kind dimensions t calls).2).1 = .error e →
      afterCalls kind dimensions t (calls ++ [call]) = afterCalls kind dimensions t calls) ∧
    (afterCalls kind dimensions t calls).1.configuration.Normal ∧
    (∀ d : Date, Value.StandsFor (.text d.iso) d) ∧
    (∀ t : DateTime, Value.StandsFor (.text t.iso) t.date) := by
  have hlast := lastGiven_foldl (⟨kind, dimensions, .default kind⟩, t) calls
  refine ⟨hlast, fun call f b t' => ?_, fun call e hfails => ?_, ?_, Value.standsFor_dateIso,
    Value.standsFor_dateTimeIso⟩
  · rw [set_eq_ok_iff]
    exact b.configuration.gives_iff call f
  · rw [afterCalls, List.foldl_append]
    exact apply_of_fails hfails
  · have hitems := (hlast .items).holds (Or.inl rfl) fun _ _ h => h.items_normal
    exact ReportConfiguration.normal_of_items hitems

/-- The month of a day gives both dates; no date is read from the second argument, so that call
    changes nothing; the third clears the end. -/
example :
    let c := (afterCalls .tsr [] ⟨.empty, []⟩ [⟨.monthOf, .text "2023-06-15T23:30:00-03:00"⟩,
      ⟨.startDate, .text "June"⟩, ⟨.endDate, .null⟩]).1.configuration
    c.startDate = some ⟨2023, 6, 1, by decide, by decide, by decide⟩ ∧ c.endDate = none := by
  decide +kernel

end ReportBuilder

end PeppolStatistics
