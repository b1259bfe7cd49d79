import PeppolStatistics.Proofs.Identifier.WrittenForm
import PeppolStatistics.Proofs.Item.Check

/-!
# The texts that are read as identifiers

A text is read as an identifier if something that is not blank stands on both sides of its first
separator. Where that is, is said without the reader: no other separator of the text begins further
left. Runs of three or more colons hold several separators, and the first one counts.

* `firstSeparator_iff`: the reader splits at the first separator;
* `parse_of_firstSeparator`, `parse_of_no_separator`: what becomes of a text with a separator, and
  of one without;
* `parse_written`: the texts that are read, and that reading and writing undo each other between
  these texts and the identifiers whose schemes are plain.
-/

namespace PeppolStatistics

namespace Identifier

/-! ## 1. Both sides of the first separator -/

/-- **Two texts stand on the sides of the first separator** of a text. -/
structure FirstSeparator (text before behind : String) : Prop where
  eq : text = before ++ "::" ++ behind
  /-- Wherever the text holds a separator, no less stands before it. -/
  first : ∀ before' behind', text = before' ++ "::" ++ behind' → before.length ≤ before'.length

/-- **A text has the form of an identifier**: something that is not blank stands on both sides of
    its first separator. -/
def Written (text : String) : Prop :=
  ∃ before behind, FirstSeparator text before behind ∧ NotBlank before ∧ NotBlank behind

variable {text before behind : String}

theorem eq_append_iff_chars : text = before ++ "::" ++ behind ↔
    text.toList = before.toList ++ ':' :: ':' :: behind.toList := by
  rw [← String.toList_inj]
  simp

/-- **The reader splits at the first separator.** -/
theorem firstSeparator_iff : FirstSeparator text before behind ↔
    splitSeparator? text.toList = some (before.toList, behind.toList) := by
  constructor
  · rintro ⟨heq, hfirst⟩
    refine splitSeparator?_eq_some_iff.mpr ⟨eq_append_iff_chars.mp heq, ?_⟩
    rintro ⟨pre, post, hwithin⟩
    -- a separator within these characters begins further left
    have hother : text =
        String.ofList pre ++ "::" ++ String.ofList (post ++ ':' :: behind.toList) := by
      rw [eq_append_iff_chars, String.toList_ofList, String.toList_ofList]
      calc text.toList
        _ = (before.toList ++ [':']) ++ ':' :: behind.toList := by
          simp [eq_append_iff_chars.mp heq]
        _ = (pre ++ [':', ':'] ++ post) ++ ':' :: behind.toList := by rw [hwithin]
        _ = pre ++ ':' :: ':' :: (post ++ ':' :: behind.toList) := by simp
    have hle := hfirst _ _ hother
    have hlength := congrArg List.length hwithin
    simp only [String.length_ofList, List.length_append, List.length_cons, List.length_nil,
      String.length_toList] at hle hlength
    omega
  · intro h
    refine ⟨eq_append_iff_chars.mpr (splitSeparator?_eq_some_iff.mp h).1, ?_⟩
    intro before' behind' hother
    exact length_le_of_splitSeparator? h (eq_append_iff_chars.mp hother)

/-! ## 2. What is read -/

/-- **A text with a separator** is read as what stands on the sides of the first one. -/
theorem parse_of_firstSeparator (h : FirstSeparator text before behind) :
    parse text = make before behind := by
  rw [parse, firstSeparator_iff.mp h]
  simp only [String.ofList_toList]

/-- **A text without a separator** is refused. -/
theorem parse_of_no_separator (h : ¬ "::".toList <:+: text.toList) :
    parse text = .error (.invalid "identifier URI" (.notSchemeValue (quoted text))) := by
  rw [parse, splitSeparator?_eq_none_iff.mpr h]

theorem exists_make_iff {scheme value : String} :
    (∃ i, make scheme value = .ok i) ↔ NotBlank scheme ∧ NotBlank value := by
  rw [notBlank_iff, notBlank_iff]
  constructor
  · rintro ⟨i, h⟩
    obtain ⟨rfl, rfl⟩ := make_eq_ok_iff.mp h
    exact ⟨i.scheme_hasText, i.value_hasText⟩
  · rintro ⟨hscheme, hvalue⟩
    exact ⟨⟨scheme, value, hscheme, hvalue⟩, make_eq_ok_iff.mpr ⟨rfl, rfl⟩⟩

/-- Two texts stand on the sides of the first separator, or there is none. -/
theorem firstSeparator_cases (text : String) :
    (∃ before behind, FirstSeparator text before behind) ∨ ¬ "::".toList <:+: text.toList := by
  cases hsplit : splitSeparator? text.toList with
  | none => exact .inr (splitSeparator?_eq_none_iff.mp hsplit)
  | some p =>
    refine .inl ⟨String.ofList p.1, String.ofList p.2, firstSeparator_iff.mpr ?_⟩
    rw [hsplit, String.toList_ofList, String.toList_ofList]

/-- **The texts that are read** are those that have the form of an identifier. -/
theorem exists_parse_iff (text : String) : (∃ i, parse text = .ok i) ↔ Written text := by
  constructor
  · rintro ⟨i, hread⟩
    rcases firstSeparator_cases text with ⟨before, behind, h⟩ | hnone
    · rw [parse_of_firstSeparator h] at hread
      exact ⟨before, behind, h, exists_make_iff.mp ⟨i, hread⟩⟩
    · rw [parse_of_no_separator hnone] at hread
      cases hread
  · rintro ⟨before, behind, h, hboth⟩
    rw [parse_of_firstSeparator h]
    exact exists_make_iff.mpr hboth

/-- **Reading and writing undo each other.** A text is read exactly if it has the form of an
    identifier. The identifier that is read has this text as its written form, and its scheme is
    plain; and every identifier whose scheme is plain has a written form that is read as the
    identifier. -/
theorem parse_written :
    (∀ text, (∃ i, parse text = .ok i) ↔ Written text) ∧
    (∀ text i, parse text = .ok i → i.uri = text ∧ i.PlainScheme) ∧
    ∀ i : Identifier, i.PlainScheme → Written i.uri ∧ parse i.uri = .ok i := by
  refine ⟨exists_parse_iff, fun _ _ hread => parse_eq_ok_iff_uri.mp hread, fun i hplain => ?_⟩
  have hread : parse i.uri = .ok i := parse_uri_eq_ok_iff.mpr hplain
  exact ⟨(exists_parse_iff i.uri).mp ⟨i, hread⟩, hread⟩

end Identifier

end PeppolStatistics
