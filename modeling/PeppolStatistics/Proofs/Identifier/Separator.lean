import Mathlib.Data.List.Infix
import PeppolStatistics.Identifier

/-!
# The separator of an identifier

The written form of an identifier is split at the first separator. That gives the identifier back
exactly if its scheme is plain: no separator begins within it, where the first colon behind the
scheme counts as well.

* `plainScheme_iff`: what is no plain scheme holds a separator or ends with a colon;
* `splitSeparator?_eq_some_iff`: what the first separator is, said without the search;
* `parse_eq_ok_iff_uri`: of the identifiers with one written form, the one whose scheme is plain is
  read;
* `parse_uri_eq_ok_iff`: when the written form gives the identifier back.
-/

namespace PeppolStatistics

namespace Identifier

theorem uri_eq (i : Identifier) : i.uri = i.scheme ++ "::" ++ i.value := by
  apply String.toList_injective
  simp [uri, uriChars]

/-! ## 1. Plain schemes -/

/-- The scheme with a colon behind it holds no separator. -/
def PlainScheme (i : Identifier) : Prop := ¬ "::".toList <:+: (i.scheme ++ ":").toList

theorem plainScheme_iff_chars {i : Identifier} :
    i.PlainScheme ↔ ¬ [':', ':'] <:+: i.scheme.toList ++ [':'] := by
  rw [PlainScheme, String.toList_append]
  rfl

instance (i : Identifier) : Decidable i.PlainScheme :=
  decidable_of_iff _ plainScheme_iff_chars.symm

/-- **A plain scheme** holds no separator and does not end with a colon. -/
theorem plainScheme_iff {i : Identifier} :
    i.PlainScheme ↔ ¬ "::".toList <:+: i.scheme.toList ∧ ¬ ":".toList <:+ i.scheme.toList := by
  have hend : [':', ':'] <:+ i.scheme.toList ++ [':'] ↔ [':'] <:+ i.scheme.toList := by
    rw [List.suffix_concat_iff]
    constructor
    · rintro (h | ⟨t, ht, hsuffix⟩)
      · cases h
      · have hone : [':'] ++ [':'] = t ++ [':'] := ht
        rwa [← List.append_cancel_right hone] at hsuffix
    · intro h
      exact .inr ⟨[':'], rfl, h⟩
  rw [plainScheme_iff_chars, List.infix_concat_iff, not_or, hend]
  exact And.comm

/-! ## 2. The first separator -/

/-- **The first separator**: both sides make up the text again, and none begins earlier. -/
theorem splitSeparator?_eq_some_iff {cs pre post : List Char} :
    splitSeparator? cs = some (pre, post) ↔
      cs = pre ++ ':' :: ':' :: post ∧ ¬ [':', ':'] <:+: pre ++ [':'] := by
  induction cs using splitSeparator?.induct generalizing pre with
  | case1 => simp [splitSeparator?]
  | case2 rest =>
    rw [splitSeparator?, Option.some.injEq, Prod.mk.injEq]
    constructor
    · rintro ⟨rfl, rfl⟩
      exact ⟨rfl, by decide⟩
    · rintro ⟨happend, hplain⟩
      match pre with
      | [] => exact ⟨rfl, by simpa using happend⟩
      | [c] =>
        -- the separator would begin with the last character before it
        obtain rfl : ':' = c := (List.cons.inj happend).1
        exact absurd (List.infix_refl _) hplain
      | c :: d :: pre =>
        obtain ⟨rfl, hrest⟩ := List.cons.inj happend
        obtain ⟨rfl, _⟩ := List.cons.inj hrest
        exact absurd ⟨[], pre ++ [':'], rfl⟩ hplain
  | case3 c rest hfirst ih =>
    rw [splitSeparator?.eq_3 _ _ hfirst, Option.map_eq_some_iff]
    constructor
    · rintro ⟨⟨pre', post'⟩, hsplit, hpair⟩
      obtain ⟨rfl, rfl⟩ := Prod.mk.inj hpair
      obtain ⟨rfl, hplain⟩ := ih.mp hsplit
      refine ⟨rfl, fun hinfix => ?_⟩
      rcases List.infix_cons_iff.mp hinfix with hprefix | hinfix
      · obtain ⟨rfl, hnext⟩ := List.cons_prefix_cons.mp hprefix
        -- two colons at the beginning would have been split at
        cases pre' with
        | nil => exact hfirst _ rfl rfl
        | cons d pre'' =>
          obtain ⟨rfl, _⟩ := List.cons_prefix_cons.mp hnext
          exact hfirst _ rfl rfl
      · exact hplain hinfix
    · rintro ⟨happend, hplain⟩
      cases pre with
      | nil =>
        obtain ⟨rfl, rfl⟩ := List.cons.inj happend
        exact absurd rfl (hfirst _ rfl)
      | cons c' pre' =>
        obtain ⟨rfl, rfl⟩ := List.cons.inj happend
        have hrest : ¬ [':', ':'] <:+: pre' ++ [':'] :=
          fun h => hplain (List.infix_cons_iff.mpr (.inr h))
        exact ⟨(pre', post), ih.mpr ⟨rfl, hrest⟩, rfl⟩

/-- No other separator begins further left. -/
theorem length_le_of_splitSeparator? {cs pre post pre' post' : List Char}
    (h : splitSeparator? cs = some (pre, post)) (hother : cs = pre' ++ ':' :: ':' :: post') :
    pre.length ≤ pre'.length := by
  obtain ⟨happend, hplain⟩ := splitSeparator?_eq_some_iff.mp h
  by_contra hlong
  -- the other separator would lie before the first one
  have hearlier : pre' ++ [':', ':'] <+: cs := ⟨post', by simp [hother]⟩
  have hpre : pre ++ [':'] <+: cs := ⟨':' :: post, by simp [happend]⟩
  have hwithin := List.prefix_of_prefix_length_le hearlier hpre (by simp; omega)
  exact hplain ((List.suffix_append _ _).isInfix.trans hwithin.isInfix)

/-! ## 3. Reading an identifier back -/

theorem make_eq_ok_iff {scheme value : String} {i : Identifier} :
    make scheme value = .ok i ↔ scheme = i.scheme ∧ value = i.value := by
  constructor
  · intro h
    rw [make] at h
    split at h
    · split at h
      · cases h
        exact ⟨rfl, rfl⟩
      · cases h
    · cases h
  · rintro ⟨rfl, rfl⟩
    exact make_self i

theorem parse_eq_ok_iff {s : String} {i : Identifier} :
    parse s = .ok i ↔ splitSeparator? s.toList = some (i.scheme.toList, i.value.toList) := by
  have htext : ∀ (cs : List Char) (t : String), String.ofList cs = t ↔ cs = t.toList := by
    intro cs t
    rw [← String.toList_inj, String.toList_ofList]
  rw [parse]
  cases splitSeparator? s.toList with
  | none => simp
  | some p =>
    show make (String.ofList p.1) (String.ofList p.2) = .ok i ↔ _
    rw [make_eq_ok_iff, htext, htext, Option.some.injEq, Prod.ext_iff]

/-- **What is read from a text** is the identifier with this written form whose scheme is plain. -/
theorem parse_eq_ok_iff_uri {s : String} {i : Identifier} :
    parse s = .ok i ↔ i.uri = s ∧ i.PlainScheme := by
  have hwritten : s.toList = i.uriChars ↔ i.uri = s := by
    rw [uri, ← String.toList_inj, String.toList_ofList, eq_comm]
  rw [parse_eq_ok_iff, splitSeparator?_eq_some_iff, plainScheme_iff_chars, ← hwritten, uriChars]

/-- **The written form gives the identifier back** exactly if its scheme is plain. -/
theorem parse_uri_eq_ok_iff {i : Identifier} : parse i.uri = .ok i ↔ i.PlainScheme :=
  parse_eq_ok_iff_uri.trans (and_iff_right rfl)

end Identifier

end PeppolStatistics
