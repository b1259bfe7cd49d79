import Mathlib.Algebra.Group.Int.Defs
import Mathlib.Algebra.Group.Nat.Defs
import PeppolStatistics.Proofs.Checks
import PeppolStatistics.Value.Printer

/-!
# Which values can be written

A number of more than 4300 digits cannot be written in decimal, and neither can a value whose texts
would have to show one. Nothing else stands in the way.

* `Numeral.isLong_iff`: which numbers these are;
* `StopsIf`: work that stops because of such a number in one case, and in no other;
* `Value.ShowsLong`: the values whose texts would show one, at any depth;
* `Value.forms_stopsIf`: these values have no text, and all others have.
-/

namespace PeppolStatistics

/-! ## 1. Numbers -/

/-- **The numbers that are too long** are those of more than 4300 digits, from
    `10 ^ 4300` on, and their negatives. -/
theorem Numeral.isLong_iff {n : Int} : isLong n = true ↔ 10 ^ digitLimit ≤ n.natAbs := by
  have hshort := Nat.length_toDigits_le_iff (b := 10) (n := n.natAbs) (k := digitLimit)
    (by decide) (by decide)
  rw [isLong, decide_eq_true_iff, ← Nat.not_le, hshort, Nat.not_lt]

/-- The least of them. -/
theorem Numeral.isLong_pow : isLong (10 ^ digitLimit) = true := by
  rw [isLong_iff, Int.natAbs_pow]
  exact Nat.pow_le_pow_left (by decide) digitLimit

/-! ## 2. Work that stops -/

variable {α β : Type} {p q : Prop} {r : Except Failure α}

/-- **Work that stops in one case only**, because a number is too long to be written. -/
inductive StopsIf (p : Prop) : Except Failure α → Prop where
  | done {a : α} (h : ¬ p) : StopsIf p (.ok a)
  | stopped (h : p) : StopsIf p (.error .numberTooLong)

namespace StopsIf

theorem congr (h : StopsIf p r) (hpq : p ↔ q) : StopsIf q r := by
  rwa [← propext hpq]

/-- Work that succeeds stops in no case. -/
theorem never {a : α} (h : r = .ok a) : StopsIf False r := h ▸ .done not_false

theorem map (h : StopsIf p r) (f : α → β) : StopsIf p (r.map f) := by
  cases h with
  | done h => exact .done h
  | stopped h => exact .stopped h

/-- One piece of work after the other. -/
theorem bind {next : α → Except Failure β} (h : StopsIf p r)
    (hnext : ∀ a, r = .ok a → StopsIf q (next a)) : StopsIf (p ∨ q) (r >>= next) := by
  cases h with
  | stopped h => exact .stopped (.inl h)
  | done h => exact (hnext _ rfl).congr (or_iff_right h).symm

/-- The case of the first element of a list, or that of a further one. -/
theorem cons {case : α → Prop} {a : α} {as : List α} {r : Except Failure β}
    (h : StopsIf (case a ∨ ∃ a' ∈ as, case a') r) : StopsIf (∃ a' ∈ a :: as, case a') r :=
  h.congr (by simp)

/-- Work for every element of a list. -/
theorem mapM {f : α → Except Failure β} {case : α → Prop} {as : List α}
    (h : ∀ a ∈ as, StopsIf (case a) (f a)) : StopsIf (∃ a ∈ as, case a) (as.mapM f) := by
  induction as with
  | nil => exact (never rfl).congr (by simp)
  | cons a as ih =>
    rw [List.mapM_cons]
    refine cons ((h a List.mem_cons_self).bind fun b _ => ?_)
    exact (ih fun a' ha' => h a' (List.mem_cons_of_mem a ha')).map (b :: ·)

theorem error_iff {e : Failure} (h : StopsIf p r) : r = .error e ↔ p ∧ e = .numberTooLong := by
  cases h with
  | done h => exact iff_of_false nofun fun hp => h hp.1
  | stopped h => rw [Except.error.injEq, and_iff_right h, eq_comm]

theorem ok_iff (h : StopsIf p r) : (∃ a, r = .ok a) ↔ ¬ p := by
  cases h with
  | done h => exact iff_of_true ⟨_, rfl⟩ h
  | stopped h => exact iff_of_false (fun ⟨_, hok⟩ => nomatch hok) fun hp => hp h

end StopsIf

theorem Numeral.writable_stopsIf (n : Int) : StopsIf (isLong n = true) (writable n) := by
  rw [writable]
  split
  · exact .stopped ‹_›
  · exact .done ‹_›

/-! ## 3. Values -/

namespace Value

/-- The arguments of an exception that were last set among some attributes, if any were. -/
def argumentsSet? : List (String × Value) → Option (List Value)
  | [] => none
  | (n, .tuple vs) :: rest => (argumentsSet? rest).or (if n = argumentsName then some vs else none)
  | _ :: rest => argumentsSet? rest

/-- **A number that is too long stands where the texts of a value would show it.** Of an exception
    they show the arguments, and no attribute. -/
inductive ShowsLong : Value → Prop where
  | int {n : Int} (h : Numeral.isLong n = true) : ShowsLong (.int n)
  | figure {c : GroupCounts} {e : String × Int} (he : e ∈ c.toEntries)
      (h : Numeral.isLong e.2 = true) : ShowsLong (.counts c)
  | element {vs : List Value} {v : Value} (hv : v ∈ vs) (h : ShowsLong v) : ShowsLong (.list vs)
  | part {vs : List Value} {v : Value} (hv : v ∈ vs) (h : ShowsLong v) : ShowsLong (.tuple vs)
  | key {es : List (Value × Value)} {e : Value × Value} (he : e ∈ es) (h : ShowsLong e.1) :
      ShowsLong (.dict es)
  | entry {es : List (Value × Value)} {e : Value × Value} (he : e ∈ es) (h : ShowsLong e.2) :
      ShowsLong (.dict es)
  | argument {kind : FaultKind} {args : List Value} {attributes : List (String × Value)} {v : Value}
      (hv : v ∈ (argumentsSet? attributes).getD args) (h : ShowsLong v) :
      ShowsLong (.fault kind args attributes)
  | field {typeName : String} {fields : List (String × Value)} {f : String × Value}
      (hf : f ∈ fields) (h : ShowsLong f.2) : ShowsLong (.record typeName fields)

theorem showsLong_int {n : Int} : (Value.int n).ShowsLong ↔ Numeral.isLong n = true :=
  ⟨fun | .int h => h, .int⟩

theorem showsLong_counts {c : GroupCounts} :
    (Value.counts c).ShowsLong ↔ ∃ e ∈ c.toEntries, Numeral.isLong e.2 = true :=
  ⟨fun | .figure he h => ⟨_, he, h⟩, fun ⟨_, he, h⟩ => .figure he h⟩

theorem showsLong_list {vs : List Value} :
    (Value.list vs).ShowsLong ↔ ∃ v ∈ vs, v.ShowsLong :=
  ⟨fun | .element hv h => ⟨_, hv, h⟩, fun ⟨_, hv, h⟩ => .element hv h⟩

theorem showsLong_tuple {vs : List Value} :
    (Value.tuple vs).ShowsLong ↔ ∃ v ∈ vs, v.ShowsLong :=
  ⟨fun | .part hv h => ⟨_, hv, h⟩, fun ⟨_, hv, h⟩ => .part hv h⟩

theorem showsLong_dict {es : List (Value × Value)} :
    (Value.dict es).ShowsLong ↔ ∃ e ∈ es, e.1.ShowsLong ∨ e.2.ShowsLong :=
  ⟨fun | .key he h => ⟨_, he, .inl h⟩ | .entry he h => ⟨_, he, .inr h⟩,
    fun ⟨_, he, h⟩ => h.elim (.key he) (.entry he)⟩

theorem showsLong_fault {kind : FaultKind} {args : List Value}
    {attributes : List (String × Value)} :
    (Value.fault kind args attributes).ShowsLong ↔
      ∃ v ∈ (argumentsSet? attributes).getD args, v.ShowsLong :=
  ⟨fun | .argument hv h => ⟨_, hv, h⟩, fun ⟨_, hv, h⟩ => .argument hv h⟩

theorem showsLong_record {typeName : String} {fields : List (String × Value)} :
    (Value.record typeName fields).ShowsLong ↔ ∃ f ∈ fields, f.2.ShowsLong :=
  ⟨fun | .field hf h => ⟨_, hf, h⟩, fun ⟨_, hf, h⟩ => .field hf h⟩

/-! ## 4. Their texts -/

theorem formsOfArguments_eq (attributes : List (String × Value)) :
    formsOfArguments attributes = (argumentsSet? attributes).map formsOfAll := by
  fun_induction argumentsSet? attributes with
  | case1 => rfl
  | case2 n vs rest ih =>
    rw [formsOfArguments, ih, Option.map_or]
    split <;> rfl
  | case3 a rest hother ih =>
    rw [← ih, formsOfArguments]
    exact hother

mutual

/-- **A value has texts** unless they would show a number that is too long. By induction on the
    value, together with the parts of every kind that has some. -/
theorem forms_stopsIf : ∀ v : Value, StopsIf v.ShowsLong v.forms
  | .null | .bool _ | .real _ | .text _ | .date _ | .dateTime _ | .uuid _ | .direction _
  | .dimension _ | .identifier _ | .item _ | .collection _ | .period _ => .done nofun
  | .int n => by
    rw [forms]
    exact ((Numeral.writable_stopsIf n).map _).congr showsLong_int.symm
  | .counts c => by
    rw [forms]
    refine StopsIf.congr ?_ showsLong_counts.symm
    refine StopsIf.map (StopsIf.mapM fun e _ => ?_) _
    exact (Numeral.writable_stopsIf e.2).map _
  | .list vs => by
    rw [forms]
    exact ((formsOfAll_stopsIf vs).map _).congr showsLong_list.symm
  | .tuple vs => by
    rw [forms]
    exact ((formsOfAll_stopsIf vs).map _).congr showsLong_tuple.symm
  | .dict es => by
    rw [forms]
    exact ((entryLiterals_stopsIf es).map _).congr showsLong_dict.symm
  | .fault kind args attributes => by
    rw [forms]
    refine StopsIf.congr ?_ showsLong_fault.symm
    rw [formsOfArguments_eq]
    cases hset : argumentsSet? attributes with
    | none => exact (formsOfAll_stopsIf args).map _
    | some vs => exact (argumentsSet_stopsIf attributes hset).map _
  | .record typeName fields => by
    rw [forms]
    exact ((fieldLiterals_stopsIf fields).map _).congr showsLong_record.symm

theorem formsOfAll_stopsIf : ∀ vs : List Value,
    StopsIf (∃ v ∈ vs, v.ShowsLong) (formsOfAll vs)
  | [] => .done (by simp)
  | v :: vs => by
    rw [formsOfAll]
    exact .cons ((forms_stopsIf v).bind fun _ _ => (formsOfAll_stopsIf vs).map _)

theorem argumentsSet_stopsIf : ∀ (attributes : List (String × Value)) {vs : List Value},
    argumentsSet? attributes = some vs → StopsIf (∃ v ∈ vs, v.ShowsLong) (formsOfAll vs)
  | [], _, h => nomatch h
  | (n, v) :: rest, vs, h => by
    cases v with
    | tuple ws =>
      rw [argumentsSet?, Option.or_eq_some_iff] at h
      rcases h with h | ⟨-, h⟩
      · exact argumentsSet_stopsIf rest h
      · obtain ⟨-, h⟩ := Option.ite_none_right_eq_some.mp h
        exact Option.some.inj h ▸ formsOfAll_stopsIf ws
    | _ => exact argumentsSet_stopsIf rest h

theorem entryLiterals_stopsIf : ∀ es : List (Value × Value),
    StopsIf (∃ e ∈ es, e.1.ShowsLong ∨ e.2.ShowsLong) (entryLiterals es)
  | [] => .done (by simp)
  | (k, v) :: es => by
    rw [entryLiterals]
    refine .cons (StopsIf.congr ?_ or_assoc.symm)
    refine (forms_stopsIf k).bind fun _ _ => (forms_stopsIf v).bind fun _ _ => ?_
    exact (entryLiterals_stopsIf es).map _

theorem fieldLiterals_stopsIf : ∀ fields : List (String × Value),
    StopsIf (∃ f ∈ fields, f.2.ShowsLong) (fieldLiterals fields)
  | [] => .done (by simp)
  | (n, v) :: fields => by
    rw [fieldLiterals]
    exact .cons ((forms_stopsIf v).bind fun _ _ => (fieldLiterals_stopsIf fields).map _)

end

/-- **A value can be written** unless a number that is too long would have to be. -/
theorem toText_stopsIf (v : Value) : StopsIf v.ShowsLong v.toText := (forms_stopsIf v).map _

theorem literal_stopsIf (v : Value) : StopsIf v.ShowsLong v.literal := (forms_stopsIf v).map _

/-- **What refuses a value** is the failure whose message shows it, if it can be shown. -/
theorem refusal_cases (v : Value) (failure : String → Failure) :
    (v.ShowsLong ∧ v.refusal failure = .numberTooLong) ∨
    (¬ v.ShowsLong ∧ ∃ shown, v.literal = .ok shown ∧ v.refusal failure = failure shown) := by
  rw [refusal]
  have hliteral := v.literal_stopsIf
  generalize v.literal = literal at hliteral ⊢
  cases hliteral with
  | stopped h => exact .inl ⟨h, rfl⟩
  | done h => exact .inr ⟨h, _, rfl, rfl⟩

/-- A text holds no number. -/
theorem not_showsLong_of_text {v : Value} {s : String} (h : v.asText? = some s) :
    ¬ v.ShowsLong := by
  intro hlong
  cases hlong with
  | _ => cases h

end Value

end PeppolStatistics
