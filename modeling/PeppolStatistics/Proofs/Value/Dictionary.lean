import PeppolStatistics.Value.Equality

/-!
# Dictionaries with texts as keys

The dictionaries of settings files and items have texts as keys (`Value.ofFields`). A look-up in
such a dictionary is one among its named values (`lookup?_fields`). A value of any kind may be run
through like the keys of a dictionary: `keyTexts?` are the texts it runs through, if nothing else is
among them.
-/

namespace PeppolStatistics

namespace Value

/-! ## 1. Named values -/

/-- A value is the same as a text exactly if it is a text and equal to it. -/
theorem same_text_eq (v : Value) (t : String) : v.same (.text t) = (v.asText? == some t) := by
  cases v <;> simp [same, sameLeaf, asText?]

@[simp] theorem same_text (s t : String) : (Value.text s).same (.text t) = (s == t) := by
  simp [same_text_eq, asText?]

/-- A dictionary of named values. -/
def ofFields (fields : List (String × Value)) : Value := .dict (fields.map fun f => (.text f.1, f.2))

theorem ofFields_nil : ofFields [] = .dict [] := rfl

theorem truthy_null : truthy .null = false := rfl

/-- A dictionary counts as true if it is not empty. -/
theorem truthy_fields (fields : List (String × Value)) :
    (ofFields fields).truthy = !fields.isEmpty := by
  cases fields <;> rfl

/-- A look-up in a dictionary of named values. -/
theorem lookup?_fields (key : String) (fields : List (String × Value)) :
    lookup? (.text key) (fields.map fun f => (.text f.1, f.2)) =
      (fields.find? fun f => f.1 == key).map (·.2) := by
  have htest : ((fun e : Value × Value => e.1.same (.text key)) ∘
      fun f : String × Value => (.text f.1, f.2)) = fun f => f.1 == key :=
    funext fun f => same_text f.1 key
  rw [lookup?, List.find?_map, htest, Option.map_map]
  rfl

/-- A look-up in a dictionary of texts. -/
theorem lookup?_texts (key : String) (entries : List (String × String)) :
    lookup? (.text key) (entries.map fun e => (.text e.1, .text e.2)) =
      (entries.find? fun e => e.1 == key).map fun e => .text e.2 := by
  have hfields := lookup?_fields key (entries.map fun e => (e.1, .text e.2))
  rw [List.map_map, List.find?_map, Option.map_map] at hfields
  exact hfields

/-! ## 2. Keys that are texts -/

theorem hashable_of_asText? {v : Value} {s : String} (h : v.asText? = some s) :
    v.hashable = true := by
  cases v with
  | text | direction | dimension => rfl
  | _ => cases h

/-- The texts of the values that a value runs through, if all of them are texts. -/
def keyTexts? (v : Value) : Option (List String) := v.elements?.bind (·.mapM asText?)

theorem mapM_asText?_cons (v : Value) (vs : List Value) :
    (v :: vs).mapM asText? = v.asText?.bind fun s => (vs.mapM asText?).map (s :: ·) := by
  rw [List.mapM_cons]
  cases v.asText? with
  | none => rfl
  | some s => cases vs.mapM asText? <;> rfl

theorem allHashable_of_texts {vs : List Value} {names : List String}
    (h : vs.mapM asText? = some names) : allHashable vs = true := by
  induction vs generalizing names with
  | nil => rfl
  | cons v vs ih =>
    rw [mapM_asText?_cons] at h
    obtain ⟨s, hs, h⟩ := Option.bind_eq_some_iff.mp h
    obtain ⟨rest, hrest, _⟩ := Option.map_eq_some_iff.mp h
    rw [allHashable, hashable_of_asText? hs, ih hrest]
    rfl

theorem isEmpty_of_texts {vs : List Value} {names : List String}
    (h : vs.mapM asText? = some names) : names.isEmpty = vs.isEmpty := by
  cases vs with
  | nil =>
    cases h
    rfl
  | cons v vs =>
    rw [mapM_asText?_cons] at h
    obtain ⟨s, _, h⟩ := Option.bind_eq_some_iff.mp h
    obtain ⟨rest, _, rfl⟩ := Option.map_eq_some_iff.mp h
    rfl

/-- Of some values those that are no known text are texts if and only if all values are; they are
    the unknown texts then. -/
theorem mapM_asText?_filter (known : List String) (vs : List Value) :
    (vs.filter fun v => !known.any fun n => v.same (.text n)).mapM asText? =
      (vs.mapM asText?).map (List.filter fun n => !known.contains n) := by
  induction vs with
  | nil => rfl
  | cons v vs ih =>
    have hknown : (known.any fun n => v.same (.text n)) = v.asText?.any known.contains := by
      simp only [same_text_eq]
      cases v.asText? with
      | none => simp
      | some s => exact List.contains_eq_any_beq.symm
    rw [List.filter_cons, hknown, mapM_asText?_cons]
    cases hv : v.asText? with
    | none => exact (mapM_asText?_cons v _).trans (by rw [hv]; rfl)
    | some s =>
      rw [Option.any_some, Option.bind_some, Option.map_map]
      by_cases hs : known.contains s = true
      · have hskip : (List.filter fun n => !known.contains n) ∘ (s :: ·) =
            List.filter fun n => !known.contains n := by
          funext names
          exact List.filter_cons_of_neg (by rw [hs]; exact Bool.false_ne_true)
        rw [hs, hskip]
        exact ih
      · rw [Bool.not_eq_true] at hs
        have hkeep : (List.filter fun n => !known.contains n) ∘ (s :: ·) =
            (s :: ·) ∘ List.filter fun n => !known.contains n := by
          funext names
          exact List.filter_cons_of_pos (by rw [hs]; rfl)
        rw [hs, hkeep, ← Option.map_map, ← ih]
        exact (mapM_asText?_cons v _).trans (by rw [hv]; rfl)

/-- All of some texts are texts. -/
theorem mapM_asText?_texts (names : List String) :
    (names.map Value.text).mapM Value.asText? = some names := by
  induction names with
  | nil => rfl
  | cons n names ih => rw [List.map_cons, List.mapM_cons, ih]; rfl

theorem keyTexts?_fields (fields : List (String × Value)) :
    (ofFields fields).keyTexts? = some (fields.map (·.1)) := by
  rw [← mapM_asText?_texts, ofFields, keyTexts?, elements?, Option.bind_some, List.map_map,
    List.map_map]
  rfl

/-! ## 3. An entry with another value -/

theorem lookup?_cons (t : String) (e : Value × Value) (entries : List (Value × Value)) :
    lookup? (.text t) (e :: entries) =
      if e.1.asText? = some t then some e.2 else lookup? (.text t) entries := by
  rw [lookup?, List.find?_cons, same_text_eq]
  by_cases ht : e.1.asText? = some t
  · rw [if_pos ht, ht, beq_self_eq_true]
    rfl
  · rw [if_neg ht, beq_false_of_ne ht]
    rfl

/-- **A value that is put** is the one that is found, and all others stay. -/
theorem lookup?_put (key t : String) (v : Value) (entries : List (Value × Value)) :
    lookup? (.text t) (put (.text key) v entries) =
      if t = key then some v else lookup? (.text t) entries := by
  induction entries with
  | nil =>
    rw [put, lookup?_cons]
    simp [asText?, eq_comm]
  | cons e entries ih =>
    obtain ⟨k, u⟩ := e
    rw [put, same_text_eq, lookup?_cons]
    by_cases hk : k.asText? = some key
    · simp only [hk, beq_self_eq_true, if_true, lookup?_cons, Option.some.injEq, eq_comm]
      split <;> rfl
    · rw [if_neg (by simpa using hk), lookup?_cons, ih]
      by_cases ht : t = key
      · rw [if_neg (ht ▸ hk)]
        simp [ht]
      · simp only [ht, if_false]

/-- The keys stay as they are if the key is there. -/
theorem keys_put {key : String} {u : Value} {entries : List (Value × Value)}
    (h : lookup? (.text key) entries = some u) (v : Value) :
    (put (.text key) v entries).map (·.1) = entries.map (·.1) := by
  induction entries with
  | nil => cases h
  | cons e entries ih =>
    rw [lookup?_cons] at h
    rw [put, same_text_eq]
    by_cases hk : e.1.asText? = some key
    · rw [if_pos (by simpa using hk)]
      rfl
    · rw [if_neg hk] at h
      rw [if_neg (by simpa using hk), List.map_cons, List.map_cons, ih h]

theorem keyTexts?_put {key : String} {u : Value} {entries : List (Value × Value)}
    (h : lookup? (.text key) entries = some u) (v : Value) :
    (Value.dict (put (.text key) v entries)).keyTexts? = (Value.dict entries).keyTexts? := by
  simp only [keyTexts?, elements?, keys_put h]

end Value

end PeppolStatistics
