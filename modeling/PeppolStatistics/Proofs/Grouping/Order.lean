import Mathlib.Data.List.Lex
import Mathlib.Data.Prod.Basic
import Mathlib.Data.String.Basic
import PeppolStatistics.Grouping.Key

/-!
# The order of keys

Keys are compared by their sort keys: field by field, each field by its text and then by its
scheme. This file says so with lexicographic orders (`SortKey.Before`), shows that `SortKey.le`
decides the order, and that sort keys tell apart the keys of one sequence of dimensions.

* `SortKey.le_iff`: `le` holds for equal sort keys and for those that lie before;
* `SortKey.le_trans`, `SortKey.le_total`, `SortKey.not_le_iff`: `le` is a linear order;
* `Item.key_eq_of_sortKey`: two items with one sort key have one key, also where different
  identifiers have the same written form.
-/

namespace PeppolStatistics

namespace SortKey

/-! ## 1. The lexicographic order -/

/-- One field lies before another: its text is the smaller one by code points, or the texts agree
    and its scheme is the smaller one. -/
def FieldBefore : String × String → String × String → Prop :=
  Prod.Lex (· < ·) (· < ·)

/-- One sort key lies before another: by the first field that differs, or as its beginning. -/
def Before : SortKey → SortKey → Prop := List.Lex FieldBefore

theorem fieldLt_iff {a b : String × String} : fieldLt a b = true ↔ FieldBefore a b := by
  simp only [fieldLt, FieldBefore, Prod.lex_def, Bool.or_eq_true, Bool.and_eq_true,
    decide_eq_true_eq, beq_iff_eq]

theorem fieldBefore_irrefl (a : String × String) : ¬ FieldBefore a a := by
  intro h
  rcases Prod.lex_def.mp h with h | ⟨_, h⟩
  · exact lt_irrefl _ h
  · exact lt_irrefl _ h

theorem FieldBefore.trans {a b c : String × String} (h₁ : FieldBefore a b)
    (h₂ : FieldBefore b c) : FieldBefore a c := by
  refine Prod.lex_def.mpr ?_
  rcases Prod.lex_def.mp h₁ with h₁ | ⟨e₁, h₁⟩
  · rcases Prod.lex_def.mp h₂ with h₂ | ⟨e₂, _⟩
    · exact Or.inl (lt_trans h₁ h₂)
    · exact Or.inl (e₂ ▸ h₁)
  · rcases Prod.lex_def.mp h₂ with h₂ | ⟨e₂, h₂⟩
    · exact Or.inl (e₁ ▸ h₂)
    · exact Or.inr ⟨e₁.trans e₂, lt_trans h₁ h₂⟩

theorem fieldBefore_or {a b : String × String} (h : a ≠ b) :
    FieldBefore a b ∨ FieldBefore b a := by
  rcases lt_trichotomy a.1 b.1 with h₁ | h₁ | h₁
  · exact Or.inl (Prod.lex_def.mpr (Or.inl h₁))
  · rcases lt_trichotomy a.2 b.2 with h₂ | h₂ | h₂
    · exact Or.inl (Prod.lex_def.mpr (Or.inr ⟨h₁, h₂⟩))
    · exact absurd (Prod.ext h₁ h₂) h
    · exact Or.inr (Prod.lex_def.mpr (Or.inr ⟨h₁.symm, h₂⟩))
  · exact Or.inr (Prod.lex_def.mpr (Or.inl h₁))

theorem Before.trans {a b c : SortKey} (h₁ : Before a b) (h₂ : Before b c) : Before a c :=
  List.lex_trans FieldBefore.trans h₁ h₂

theorem before_irrefl : ∀ a : SortKey, ¬ Before a a
  | [], h => List.not_lex_nil h
  | f :: fs, h => by
      rcases List.cons_lex_cons_iff.mp h with h | ⟨_, h⟩
      · exact fieldBefore_irrefl f h
      · exact before_irrefl fs h

/-! ## 2. Deciding it -/

/-- **`le` decides the order**: equal sort keys, and those that lie before. -/
theorem le_iff : ∀ {a b : SortKey}, le a b = true ↔ a = b ∨ Before a b
  | [], [] => by simp [le]
  | [], _ :: _ => ⟨fun _ => Or.inr List.Lex.nil, fun _ => rfl⟩
  | _ :: _, [] => by simp [le, Before]
  | f :: fs, g :: gs => by
      by_cases hfg : f = g
      · subst hfg
        rw [le, if_pos rfl, le_iff, Before, List.cons_lex_cons_iff, List.cons.injEq]
        constructor
        · rintro (rfl | h)
          · exact Or.inl ⟨rfl, rfl⟩
          · exact Or.inr (Or.inr ⟨rfl, h⟩)
        · rintro (⟨_, rfl⟩ | h | ⟨_, h⟩)
          · exact Or.inl rfl
          · exact absurd h (fieldBefore_irrefl f)
          · exact Or.inr h
      · rw [le, if_neg hfg, fieldLt_iff, Before, List.cons_lex_cons_iff, List.cons.injEq]
        constructor
        · exact fun h => Or.inr (Or.inl h)
        · rintro (⟨e, _⟩ | h | ⟨e, _⟩)
          · exact absurd e hfg
          · exact h
          · exact absurd e hfg

theorem le_trans {a b c : SortKey} (h₁ : le a b = true) (h₂ : le b c = true) :
    le a c = true := by
  rw [le_iff] at h₁ h₂ ⊢
  rcases h₁ with rfl | h₁
  · exact h₂
  · rcases h₂ with rfl | h₂
    · exact Or.inr h₁
    · exact Or.inr (h₁.trans h₂)

theorem le_total : ∀ a b : SortKey, (le a b || le b a) = true
  | [], _ => rfl
  | _ :: _, [] => rfl
  | f :: fs, g :: gs => by
      by_cases hfg : f = g
      · subst hfg
        rw [le, le, if_pos rfl, if_pos rfl]
        exact le_total fs gs
      · rw [le, le, if_neg hfg, if_neg (Ne.symm hfg), Bool.or_eq_true, fieldLt_iff, fieldLt_iff]
        exact fieldBefore_or hfg

/-- No two sort keys lie before each other. -/
theorem Before.asymm {a b : SortKey} (h : Before a b) : ¬ Before b a :=
  fun h' => before_irrefl a (h.trans h')

end SortKey

/-! ## 3. Sort keys tell keys apart -/

namespace Identifier

/-- The scheme decides where the written form is to be split. -/
theorem eq_of_uri_of_scheme {i j : Identifier} (hu : i.uri = j.uri) (hs : i.scheme = j.scheme) :
    i = j := by
  have hchars : i.uriChars = j.uriChars := String.ofList_injective hu
  rw [uriChars, uriChars, hs] at hchars
  have hrest := List.append_cancel_left hchars
  have hv : i.value = j.value := String.toList_injective (by simpa using hrest)
  cases i
  cases j
  subst hs hv
  rfl

end Identifier

theorem Direction.text_injective {d e : Direction} (h : d.text = e.text) : d = e := by
  have hd := Direction.ofText?_text d
  rw [h, Direction.ofText?_text] at hd
  exact (Option.some.inj hd).symm

/-- Two fields of one dimension with the same text and scheme are the same. -/
theorem Dimension.field_eq_of_sortField (d : Dimension) {i j : Item}
    (h : (d.field i).sortField = (d.field j).sortField) : d.field i = d.field j := by
  obtain ⟨ht, hs⟩ := Prod.mk.inj h
  cases d with
  | endUserCountry => exact congrArg KeyField.text ht
  | documentType => exact congrArg KeyField.identifier (Identifier.eq_of_uri_of_scheme ht hs)
  | process => exact congrArg KeyField.identifier (Identifier.eq_of_uri_of_scheme ht hs)
  | direction => exact congrArg KeyField.direction (Direction.text_injective ht)
  | transportProtocol => exact congrArg KeyField.text ht

/-- **Items with one sort key have one key**, whatever the dimensions. -/
theorem Item.key_eq_of_sortKey {i j : Item} : ∀ {dims : List Dimension},
    (i.key dims).sortKey = (j.key dims).sortKey → i.key dims = j.key dims
  | [], _ => rfl
  | d :: dims, h => by
      obtain ⟨hd, hrest⟩ := List.cons.inj h
      exact congrArg₂ List.cons (d.field_eq_of_sortField hd) (key_eq_of_sortKey hrest)

end PeppolStatistics
