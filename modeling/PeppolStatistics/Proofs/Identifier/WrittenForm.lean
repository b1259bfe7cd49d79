import PeppolStatistics.Proofs.Identifier.Separator

/-!
# What a written form is read as

Every identifier has a written form, and some of them share one: a separator within the scheme, or
a colon at its end, looks like the separator behind it. Reading always takes the first separator.

* `eq_of_uri_of_plain`: identifiers with plain schemes are told apart by their written forms;
* `exists_splitSeparator?_uri`, `begins_of_splitSeparator?_uri`: in a written form there is a first
  separator, and it is the one behind the scheme or begins within the scheme;
* `parse_uri_eq_error_iff`: a written form is refused only if nothing but blanks stands before the
  first separator;
* `parse_uri_cases`: all of it, for every identifier. `uri_ambiguous` shows two identifiers with
  one written form.
-/

namespace PeppolStatistics

namespace Identifier

variable {i j : Identifier} {pre post : List Char}

/-! ## 1. Plain schemes -/

/-- Identifiers with plain schemes are told apart by their written forms. -/
theorem eq_of_uri_of_plain (hi : i.PlainScheme) (hj : j.PlainScheme) (h : i.uri = j.uri) :
    i = j := by
  have hread := parse_eq_ok_iff_uri.mpr ⟨h, hi⟩
  rw [parse_uri_eq_ok_iff.mpr hj] at hread
  exact (Except.ok.inj hread).symm

/-! ## 2. The first separator of a written form -/

/-- A text without a first separator holds none. -/
theorem splitSeparator?_eq_none_iff {cs : List Char} :
    splitSeparator? cs = none ↔ ¬ [':', ':'] <:+: cs := by
  induction cs using splitSeparator?.induct with
  | case1 => simp [splitSeparator?]
  | case2 rest =>
    rw [splitSeparator?]
    exact iff_of_false (Option.some_ne_none _) (not_not_intro ⟨[], rest, rfl⟩)
  | case3 c rest hfirst ih =>
    have hbegin : ¬ [':', ':'] <+: c :: rest := by
      rintro ⟨later, hlater⟩
      obtain ⟨rfl, hrest⟩ := List.cons.inj hlater
      exact hfirst later rfl hrest.symm
    rw [splitSeparator?.eq_3 _ _ hfirst, Option.map_eq_none_iff, ih, List.infix_cons_iff, not_or]
    exact (and_iff_right hbegin).symm

theorem exists_splitSeparator?_uri (i : Identifier) :
    ∃ pre post, splitSeparator? i.uriChars = some (pre, post) := by
  have hholds : [':', ':'] <:+: i.uriChars :=
    ⟨i.scheme.toList, i.value.toList, by simp [uriChars]⟩
  have hsome := mt splitSeparator?_eq_none_iff.mp (not_not_intro hholds)
  obtain ⟨⟨pre, post⟩, hsplit⟩ := Option.ne_none_iff_exists'.mp hsome
  exact ⟨pre, post, hsplit⟩

theorem length_le_of_splitSeparator?_uri (h : splitSeparator? i.uriChars = some (pre, post)) :
    pre.length ≤ i.scheme.toList.length :=
  length_le_of_splitSeparator? h rfl

/-- The value stands behind the first separator, if not alone. -/
theorem value_suffix_of_splitSeparator?_uri (h : splitSeparator? i.uriChars = some (pre, post)) :
    i.value.toList <:+ post := by
  obtain ⟨happend, _⟩ := splitSeparator?_eq_some_iff.mp h
  have hle := length_le_of_splitSeparator?_uri h
  have hvalue : i.value.toList <:+ i.uriChars :=
    ⟨i.scheme.toList ++ [':', ':'], by simp [uriChars]⟩
  have hpost : post <:+ i.uriChars := ⟨pre ++ [':', ':'], by simp [happend]⟩
  have hlength := congrArg List.length happend
  simp only [uriChars, List.length_append, List.length_cons] at hlength
  exact List.suffix_of_suffix_length_le hvalue hpost (by omega)

/-- **The first separator of a written form** is the one behind the scheme, or it begins within the
    scheme. -/
theorem begins_of_splitSeparator?_uri (h : splitSeparator? i.uriChars = some (pre, post)) :
    pre = i.scheme.toList ∨ pre ++ [':', ':'] <+: i.scheme.toList ++ [':'] := by
  obtain ⟨happend, _⟩ := splitSeparator?_eq_some_iff.mp h
  have hscheme : i.scheme.toList ++ [':'] <+: i.uriChars :=
    ⟨':' :: i.value.toList, by simp [uriChars]⟩
  have hpre : pre ++ [':', ':'] <+: i.uriChars := ⟨post, by simp [happend]⟩
  rcases (length_le_of_splitSeparator?_uri h).eq_or_lt with hlength | hlength
  · have hboth := List.prefix_of_prefix_length_le ((List.prefix_append _ _).trans hpre)
      ((List.prefix_append _ _).trans hscheme) hlength.le
    exact .inl (hboth.eq_of_length hlength)
  · exact .inr (List.prefix_of_prefix_length_le hpre hscheme (by simp; omega))

/-! ## 3. Written forms that are refused -/

/-- **The scheme with a colon behind it begins with a separator**, after blanks at most. -/
def BlankBeforeSeparator (i : Identifier) : Prop :=
  ∃ blanks : List Char, (∀ c ∈ blanks, isBlank c = true) ∧
    blanks ++ "::".toList <+: (i.scheme ++ ":").toList

/-- No separator begins within blanks. -/
theorem not_separator_of_blanks {blanks : List Char} (h : ∀ c ∈ blanks, isBlank c = true) :
    ¬ [':', ':'] <:+: blanks ++ [':'] := by
  have hcolon : ':' ∉ blanks := fun hmem => absurd (h ':' hmem) (by decide)
  intro hinfix
  have hcount := hinfix.sublist.count_le ':'
  rw [List.count_append, List.count_eq_zero.mpr hcolon] at hcount
  exact absurd hcount (by decide)

/-- What stands before the first separator is blank only if the separator is one of the scheme. -/
theorem blankBeforeSeparator_iff (h : splitSeparator? i.uriChars = some (pre, post)) :
    i.BlankBeforeSeparator ↔ ∀ c ∈ pre, isBlank c = true := by
  rw [BlankBeforeSeparator, String.toList_append]
  constructor
  · rintro ⟨blanks, hblanks, rest, hrest⟩
    have hwritten : i.uriChars = blanks ++ ':' :: ':' :: (rest ++ ':' :: i.value.toList) :=
      calc i.uriChars
        _ = (i.scheme.toList ++ ":".toList) ++ ':' :: i.value.toList := by simp [uriChars]
        _ = (blanks ++ "::".toList ++ rest) ++ ':' :: i.value.toList := by rw [hrest]
        _ = blanks ++ ':' :: ':' :: (rest ++ ':' :: i.value.toList) := by simp
    have hfirst := splitSeparator?_eq_some_iff.mpr ⟨hwritten, not_separator_of_blanks hblanks⟩
    rw [h] at hfirst
    cases hfirst
    exact hblanks
  · intro hpre
    rcases begins_of_splitSeparator?_uri h with rfl | hbegins
    · obtain ⟨c, hc, hfilled⟩ := List.any_eq_true.mp i.scheme_hasText
      rw [hpre c hc] at hfilled
      cases hfilled
    · exact ⟨pre, hpre, hbegins⟩

theorem hasText_of_suffix {cs : List Char} {t : String} (ht : Text.hasText t = true)
    (h : t.toList <:+ cs) : Text.hasText (String.ofList cs) = true := by
  rw [Text.hasText_ofList, List.any_eq_true]
  obtain ⟨c, hc, hfilled⟩ := List.any_eq_true.mp ht
  exact ⟨c, h.subset hc, hfilled⟩

/-- **A written form is refused** exactly if the scheme begins with a separator after blanks at
    most: what is read as the scheme is blank then. -/
theorem parse_uri_eq_error_iff {e : Failure} :
    parse i.uri = .error e ↔
      i.BlankBeforeSeparator ∧ e = .invalid "identifier scheme" .empty := by
  obtain ⟨pre, post, hsplit⟩ := exists_splitSeparator?_uri i
  have hpost := hasText_of_suffix i.value_hasText (value_suffix_of_splitSeparator?_uri hsplit)
  have hparse : parse i.uri = make (String.ofList pre) (String.ofList post) := by
    rw [parse, uri, String.toList_ofList, hsplit]
  have hblank : (∀ c ∈ pre, isBlank c = true) ↔ Text.hasText (String.ofList pre) = false := by
    simp [Text.hasText_ofList]
  rw [hparse, blankBeforeSeparator_iff hsplit, hblank, make]
  by_cases hpre : Text.hasText (String.ofList pre) = true
  · rw [dif_pos hpre, dif_pos hpost, hpre]
    simp
  · rw [dif_neg hpre, Bool.eq_false_iff.mpr hpre]
    simp [eq_comm]

/-! ## 4. Every written form -/

/-- **What the written form of an identifier is read as.** It is the same identifier exactly if its
    scheme is plain. Otherwise it is another one with the same written form, whose scheme is plain,
    or the written form is refused, because the scheme begins with a separator after blanks at
    most. Of the identifiers with plain schemes no two have one written form. -/
theorem parse_uri_cases (i : Identifier) :
    (parse i.uri = .ok i ↔ i.PlainScheme) ∧
    (∀ j, parse i.uri = .ok j ↔ j.uri = i.uri ∧ j.PlainScheme) ∧
    (∀ e, parse i.uri = .error e ↔
      i.BlankBeforeSeparator ∧ e = .invalid "identifier scheme" .empty) ∧
    ∀ j, i.PlainScheme → j.PlainScheme → i ≠ j → i.uri ≠ j.uri :=
  ⟨parse_uri_eq_ok_iff, fun _ => parse_eq_ok_iff_uri, fun _ => parse_uri_eq_error_iff,
    fun _ hi hj hne huri => hne (eq_of_uri_of_plain hi hj huri)⟩

/-- The type of a credit note whose value holds a separator. -/
def nestedNote : Identifier := ⟨documentTypeScheme, "credit-note::2.1", by decide, by decide⟩

/-- The type it comes from. -/
def plainNote : Identifier := ⟨documentTypeScheme, "credit-note", by decide, by decide⟩

/-- A separator in the value does no harm. -/
theorem parse_uri_cases_nested :
    nestedNote.PlainScheme ∧ plainNote.PlainScheme ∧ nestedNote ≠ plainNote ∧
      parse nestedNote.uri = .ok nestedNote ∧ nestedNote.uri ≠ plainNote.uri := by
  have hnested : nestedNote.PlainScheme := by decide
  have hplain : plainNote.PlainScheme := by decide
  have hne : nestedNote ≠ plainNote := by decide
  obtain ⟨hsame, _, _, hapart⟩ := parse_uri_cases nestedNote
  exact ⟨hnested, hplain, hne, hsame.mpr hnested, hapart plainNote hnested hplain hne⟩

/-- **Written forms are ambiguous**: one is refused because of its scheme, and another is shared by
    two identifiers. -/
theorem uri_ambiguous :
    (¬ ∀ i : Identifier, parse i.uri = .ok i) ∧
      ¬ ∀ i j : Identifier, i ≠ j → i.uri ≠ j.uri := by
  constructor
  · intro h
    have hplain := parse_uri_eq_ok_iff.mp (h ⟨"::x", "v", by decide, by decide⟩)
    exact absurd hplain (by decide)
  · intro h
    exact h ⟨"x::y", "z", by decide, by decide⟩ ⟨"x", "y::z", by decide, by decide⟩ (by decide)
      (by decide)

end Identifier

end PeppolStatistics
