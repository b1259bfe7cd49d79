import PeppolStatistics.Proofs.Identifier.WrittenForm
import PeppolStatistics.Proofs.Item.Dictionary
import PeppolStatistics.Proofs.Item.Origin
import PeppolStatistics.Proofs.Value.Written

/-!
# What is wrong with the dictionary of an item

An item is read from a dictionary in two rounds: all fields are read, then all of them are checked.
`ItemStep.Rejects` says of each field on its own, in either round, which values are refused and with
which failure.

* `Item.readField_eq_error_iff`, `Candidate.…_eq_error_iff`: the readers and the checks refuse
  these values and no others;
* `Item.readFields_follows`: reading ends as the first field says that is missing or refused;
* `Item.ofDict_flaws`: from every dictionary there comes an item, or the failure of the first
  flaw, which names the field. There are two exceptions. The failure of an identifier that is no
  written form names a part of an identifier and no field (`Item.ofDict_unnamed`). And a value
  that the message cannot show is put down to the time.
-/

namespace PeppolStatistics

/-! ## 1. Values and fields -/

/-- **A value gives a point in time**: it is one, or the ISO text of one. -/
inductive Value.GivesTime : Value → DateTime → Prop where
  | time (t : DateTime) : GivesTime (.dateTime t) t
  | text {v : Value} {s : String} {t : DateTime} (hs : v.asText? = some s)
      (ht : DateTime.ofIso s = .ok t) : GivesTime v t

/-- A value is a text whose first separator stands between two texts. -/
def Value.SplitsInto (v : Value) (scheme value : String) : Prop :=
  v.asText? = some (scheme ++ "::" ++ value) ∧ ¬ "::".toList <:+: (scheme ++ ":").toList

/-- A value is the written form of an identifier whose scheme is plain. -/
def Value.WritesIdentifier (v : Value) : Prop :=
  ∃ i : Identifier, v.asText? = some i.uri ∧ i.PlainScheme

namespace ItemField

/-- The fields that hold identifiers. -/
def identifiers : List ItemField := [.senderId, .receiverId, .documentTypeId, .processId]

/-- The fields that hold any text. -/
def texts : List ItemField := [.transportProtocol, .endUserId]

/-- The fields whose values are shown where they are refused. -/
def shown : List ItemField := .direction :: .endUserCountryCode :: identifiers

theorem not_identifier_of_text {f : ItemField} (hf : f ∈ texts) : f ∉ identifiers := by
  have hall : ∀ f ∈ texts, f ∉ identifiers := by decide
  exact hall f hf

theorem not_shown_of_text {f : ItemField} (hf : f ∈ texts) : f ∉ shown := by
  have hall : ∀ f ∈ texts, f ∉ shown := by decide
  exact hall f hf

theorem shown_of_identifier {f : ItemField} (hf : f ∈ identifiers) : f ∈ shown :=
  List.mem_cons_of_mem _ (List.mem_cons_of_mem _ hf)

end ItemField

/-! ## 2. Steps -/

/-- The two rounds in which a field is looked at. -/
inductive ItemStep where
  | read (f : ItemField)
  | check (f : ItemField)

namespace ItemStep

/-- The field that is looked at. -/
def field : ItemStep → ItemField
  | .read f => f
  | .check f => f

/-- All steps, in the order in which they are made. -/
def inOrder : List ItemStep := ItemField.all.map .read ++ ItemField.all.map .check

/-- **A value of a field is refused**, with the failure that says so. -/
inductive Rejects : ItemStep → Value → Failure → Prop where
  /-- What is to be read as a time is neither a point in time nor a text. -/
  | notText {v : Value} (htime : ∀ t, v ≠ .dateTime t) (htext : v.asText? = none) :
      Rejects (.read .exchangeDatetime) v
        (.invalid "exchange_datetime" (.unreadable "fromisoformat: argument must be str"))
  /-- It is a text that has not the shape of a time. -/
  | malformed {v : Value} {s given : String} (hs : v.asText? = some s)
      (he : DateTime.ofIso s = .error (.malformed given)) :
      Rejects (.read .exchangeDatetime) v
        (v.refusal fun shown =>
          .invalid "exchange_datetime" (.unreadable (DateTextError.malformed shown).message))
  /-- It has the shape of a time but is none. -/
  | noTime {v : Value} {s : String} {e : DateTextError} (hs : v.asText? = some s)
      (he : DateTime.ofIso s = .error e) (hshape : ∀ shown, e ≠ .malformed shown) :
      Rejects (.read .exchangeDatetime) v (.invalid "exchange_datetime" (.unreadable e.message))
  /-- What is to be read as an identifier is no text with a separator. -/
  | noSeparator {f : ItemField} {v : Value} (hf : f ∈ ItemField.identifiers)
      (hno : ∀ s, v.asText? = some s → ¬ "::".toList <:+: s.toList) :
      Rejects (.read f) v
        (v.refusal fun shown => .invalid "identifier URI" (.notSchemeValue shown))
  /-- Nothing but blanks stands before the first separator. -/
  | blankScheme {f : ItemField} {v : Value} {scheme value : String}
      (hf : f ∈ ItemField.identifiers) (hsplit : v.SplitsInto scheme value)
      (hblank : ¬ NotBlank scheme) :
      Rejects (.read f) v (.invalid "identifier scheme" .empty)
  /-- Nothing but blanks stands behind it. -/
  | blankValue {f : ItemField} {v : Value} {scheme value : String}
      (hf : f ∈ ItemField.identifiers) (hsplit : v.SplitsInto scheme value)
      (hscheme : NotBlank scheme) (hblank : ¬ NotBlank value) :
      Rejects (.read f) v (.invalid "identifier value" .empty)
  /-- The time carries no offset. -/
  | noOffset {v : Value} {d : Date} {t : TimeOfDay} (ht : v.GivesTime ⟨d, t, none⟩) :
      Rejects (.check .exchangeDatetime) v (.invalid "exchange_datetime" .noOffset)
  /-- The offset has seconds. -/
  | offsetWithSeconds {v : Value} {d : Date} {t : TimeOfDay} {o : UtcOffset}
      (ht : v.GivesTime ⟨d, t, some o⟩) (ho : ¬ o.InMinutes) :
      Rejects (.check .exchangeDatetime) v (.invalid "exchange_datetime" .offsetWithSeconds)
  /-- The value is not the text of a direction. -/
  | unknownDirection {v : Value} (hno : ∀ d : Direction, v.asText? ≠ some d.text) :
      Rejects (.check .direction) v
        (v.refusal fun shown => .invalid "direction" (.unknownDirection shown))
  /-- The value is no text, or a blank one. -/
  | blankText {f : ItemField} {v : Value} (hf : f ∈ ItemField.texts)
      (hblank : ∀ s, v.asText? = some s → ¬ NotBlank s) :
      Rejects (.check f) v (.invalid f.name .empty)
  /-- The value is no text that is taken as a country code. -/
  | notCountryCode {v : Value} (hno : ∀ s, v.asText? = some s →
        ¬ (TwoCapitals s ∨ ∃ t, TwoCapitals t ∧ s = t ++ "\n")) :
      Rejects (.check .endUserCountryCode) v
        (v.refusal fun shown => .invalid "end_user_country_code" (.notCountryCode shown))

end ItemStep

namespace Item

/-- The value that the entries of a dictionary give to a field. -/
def given? (entries : List (Value × Value)) (f : ItemField) : Option Value :=
  Value.lookup? (.text f.name) entries

/-- **A step fails on the entries of a dictionary**: the field is missing, or its value is
    refused. -/
inductive Raises (entries : List (Value × Value)) : ItemStep → Failure → Prop where
  | missing {f : ItemField} (h : given? entries f = none) :
      Raises entries (.read f) (.invalid f.name .missing)
  | rejected {step : ItemStep} {v : Value} {e : Failure} (h : given? entries step.field = some v)
      (hv : step.Rejects v e) : Raises entries step e

/-- **What is wrong with the entries of a dictionary** at a step, as it is reported. -/
def Flaw (entries : List (Value × Value)) (step : ItemStep) (e : Failure) : Prop :=
  ∃ raised, Raises entries step raised ∧ e = attributed raised

end Item

/-! ## 3. Reading -/

section Reading

open ItemStep

variable {v : Value} {t : DateTime} {f : ItemField} {e : Failure}

namespace Item

/-- **What is read as a time.** -/
theorem readTimestamp_eq_ok_iff {w : Value} :
    readTimestamp v = .ok w ↔ ∃ t, v.GivesTime t ∧ w = .dateTime t := by
  constructor
  · intro h
    unfold readTimestamp at h
    split at h
    · exact ⟨_, .time _, (Except.ok.inj h).symm⟩
    · split at h
      · cases h
      next s hs =>
        split at h
        next t ht => exact ⟨t, .text hs ht, (Except.ok.inj h).symm⟩
        next => cases h
        next => cases h
  · rintro ⟨t, ht, rfl⟩
    cases ht with
    | time => rfl
    | text hs ht =>
      cases v with
      | text | direction | dimension => simp only [readTimestamp, hs, ht]
      | _ => cases hs

/-- **What cannot be read as a time.** -/
theorem readTimestamp_eq_error_iff :
    readTimestamp v = .error e ↔ Rejects (.read .exchangeDatetime) v e := by
  constructor
  · intro h
    unfold readTimestamp at h
    split at h
    · cases h
    next htime =>
      split at h
      next htext =>
        cases h
        exact .notText htime htext
      next s hs =>
        split at h
        · cases h
        next he =>
          cases h
          exact .malformed hs he
        next hshape he =>
          cases h
          exact .noTime hs he hshape
  · intro h
    cases h with
    | notText htime htext =>
      cases v with
      | text | direction | dimension => cases htext
      | dateTime t => exact absurd rfl (htime t)
      | _ => rfl
    | malformed hs he =>
      cases v with
      | text | direction | dimension => simp only [readTimestamp, hs, he]
      | _ => cases hs
    | noTime hs he hshape =>
      cases v with
      | text | direction | dimension => simp only [readTimestamp, hs, he]
      | _ => cases hs
    | noSeparator hf | blankScheme hf | blankValue hf => exact absurd hf (by decide)

end Item

/-- A value gives one point in time only. -/
theorem Value.GivesTime.unique {t' : DateTime} (h : v.GivesTime t) (h' : v.GivesTime t') :
    t = t' := by
  have hread := Item.readTimestamp_eq_ok_iff.mpr ⟨t, h, rfl⟩
  have hread' := Item.readTimestamp_eq_ok_iff.mpr ⟨t', h', rfl⟩
  exact Value.dateTime.inj (Except.ok.inj (hread.symm.trans hread'))

namespace Identifier

variable {scheme value : String}

theorem make_eq_error_iff :
    make scheme value = .error e ↔
      (¬ NotBlank scheme ∧ e = .invalid "identifier scheme" .empty) ∨
      (NotBlank scheme ∧ ¬ NotBlank value ∧ e = .invalid "identifier value" .empty) := by
  rw [notBlank_iff, notBlank_iff, make]
  by_cases hscheme : Text.hasText scheme = true
  · rw [dif_pos hscheme, or_iff_right fun h => h.1 hscheme, and_iff_right hscheme]
    by_cases hvalue : Text.hasText value = true
    · rw [dif_pos hvalue]
      refine iff_of_false ?_ fun h => h.1 hvalue
      intro h
      cases h
    · rw [dif_neg hvalue, and_iff_right hvalue, Except.error.injEq, eq_comm]
  · rw [dif_neg hscheme, or_iff_left fun h => hscheme h.1, and_iff_right hscheme,
      Except.error.injEq, eq_comm]

/-- **The first separator of a value**, found by the reader. -/
theorem split_eq_some_iff {pre post : List Char} :
    (v.asText?.bind fun s => splitSeparator? s.toList) = some (pre, post) ↔
      v.SplitsInto (String.ofList pre) (String.ofList post) := by
  have hwritten (s : String) : s = String.ofList pre ++ "::" ++ String.ofList post ↔
      s.toList = pre ++ ':' :: ':' :: post := by
    rw [← String.toList_inj]
    simp
  have hfirst : (String.ofList pre ++ ":").toList = pre ++ [':'] := by simp
  rw [Option.bind_eq_some_iff, Value.SplitsInto, hfirst]
  simp only [splitSeparator?_eq_some_iff, ← hwritten]
  exact ⟨fun ⟨s, hs, hwritten, hplain⟩ => ⟨hwritten ▸ hs, hplain⟩,
    fun ⟨hs, hplain⟩ => ⟨_, hs, rfl, hplain⟩⟩

theorem split_eq_some {scheme value : String} (h : v.SplitsInto scheme value) :
    (v.asText?.bind fun s => splitSeparator? s.toList) = some (scheme.toList, value.toList) :=
  split_eq_some_iff.mpr (by rwa [String.ofList_toList, String.ofList_toList])

/-- A value without a first separator is no text with a separator. -/
theorem split_eq_none_iff :
    (v.asText?.bind fun s => splitSeparator? s.toList) = none ↔
      ∀ s, v.asText? = some s → ¬ "::".toList <:+: s.toList := by
  rw [Option.bind_eq_none_iff]
  exact forall₂_congr fun s _ => splitSeparator?_eq_none_iff

/-- The written form of an identifier is split into its scheme and its value if the scheme is
    plain. -/
theorem splitsInto_iff {i : Identifier} :
    v.SplitsInto i.scheme i.value ↔ v.asText? = some i.uri ∧ i.PlainScheme := by
  rw [uri_eq]
  exact Iff.rfl

/-- **What is read as an identifier.** -/
theorem ofValue_eq_ok_iff {i : Identifier} :
    ofValue v = .ok i ↔ v.asText? = some i.uri ∧ i.PlainScheme := by
  constructor
  · intro h
    rw [ofValue] at h
    split at h
    next pre post hsplit =>
      obtain ⟨hscheme, hvalue⟩ := make_eq_ok_iff.mp h
      have hboth := split_eq_some_iff.mp hsplit
      rwa [hscheme, hvalue, splitsInto_iff] at hboth
    next => cases h
  · intro h
    rw [ofValue, split_eq_some (splitsInto_iff.mpr h)]
    show make (String.ofList i.scheme.toList) (String.ofList i.value.toList) = .ok i
    rw [String.ofList_toList, String.ofList_toList, make_self]

/-- **What cannot be read as an identifier.** -/
theorem ofValue_eq_error_iff (hf : f ∈ ItemField.identifiers) :
    ofValue v = .error e ↔ Rejects (.read f) v e := by
  rw [ofValue]
  cases hsplit : v.asText?.bind fun s => splitSeparator? s.toList with
  | none =>
    have hno := split_eq_none_iff.mp hsplit
    constructor
    · intro h
      cases h
      exact .noSeparator hf hno
    · intro h
      cases h with
      | notText | malformed | noTime => exact absurd hf (by decide)
      | noSeparator => rfl
      | blankScheme _ h | blankValue _ h => cases hsplit.symm.trans (split_eq_some h)
  | some p =>
    obtain ⟨pre, post⟩ := p
    show make (String.ofList pre) (String.ofList post) = .error e ↔ _
    have hboth := split_eq_some_iff.mp hsplit
    rw [make_eq_error_iff]
    constructor
    · rintro (⟨hblank, rfl⟩ | ⟨hscheme, hblank, rfl⟩)
      · exact .blankScheme hf hboth hblank
      · exact .blankValue hf hboth hscheme hblank
    · intro h
      cases h with
      | notText | malformed | noTime => exact absurd hf (by decide)
      | noSeparator _ hno => cases hsplit.symm.trans (split_eq_none_iff.mpr hno)
      | blankScheme _ h hblank =>
        cases hsplit.symm.trans (split_eq_some h)
        exact .inl ⟨by rwa [String.ofList_toList], rfl⟩
      | blankValue _ h hscheme hblank =>
        cases hsplit.symm.trans (split_eq_some h)
        exact .inr ⟨by rwa [String.ofList_toList], by rwa [String.ofList_toList], rfl⟩

end Identifier

/-! ## 4. The fields of a dictionary -/

namespace Item

variable {entries : List (Value × Value)} {w : Value}

/-- The value that is read from the value of an entry. -/
def readValue : ItemField → Value → Except Failure Value
  | .exchangeDatetime, v => readTimestamp v
  | .senderId, v | .receiverId, v | .documentTypeId, v | .processId, v =>
    (Identifier.ofValue v).map .identifier
  | _, v => .ok v

/-- A field is looked up and its value read. -/
theorem readField_eq (data : Value) (f : ItemField) :
    readField data f = lookupField data f >>= readValue f := by
  cases f with
  | exchangeDatetime => rfl
  | senderId | receiverId | documentTypeId | processId =>
    refine bind_congr fun v => ?_
    rw [readValue]
    cases Identifier.ofValue v <;> rfl
  | _ => exact (bind_pure _).symm

/-- **The values of entries that cannot be read.** -/
theorem readValue_eq_error_iff : readValue f v = .error e ↔ Rejects (.read f) v e := by
  cases f with
  | exchangeDatetime => exact readTimestamp_eq_error_iff
  | senderId | receiverId | documentTypeId | processId =>
    exact map_eq_error.trans (Identifier.ofValue_eq_error_iff (by decide))
  | _ =>
    constructor
    · intro h
      cases h
    · intro h
      cases h with
      | noSeparator hf | blankScheme hf | blankValue hf => exact absurd hf (by decide)

theorem lookupField_of_missing (h : given? entries f = none) :
    lookupField (.dict entries) f = .error (.invalid f.name .missing) := by
  rw [given?] at h
  simp only [lookupField, h]

theorem lookupField_of_entry (h : given? entries f = some v) :
    lookupField (.dict entries) f = .ok v := by
  rw [given?] at h
  simp only [lookupField, h]

/-- **The fields that cannot be read.** -/
theorem readField_eq_error_iff :
    readField (.dict entries) f = .error e ↔ Raises entries (.read f) e := by
  rw [readField_eq]
  cases hentry : given? entries f with
  | none =>
    rw [lookupField_of_missing hentry, error_bind]
    constructor
    · intro h
      cases h
      exact .missing hentry
    · intro h
      cases h with
      | missing => rfl
      | rejected h => cases hentry.symm.trans h
  | some v =>
    rw [lookupField_of_entry hentry, ok_bind, readValue_eq_error_iff]
    constructor
    · exact .rejected hentry
    · intro h
      cases h with
      | missing h => cases hentry.symm.trans h
      | rejected h hv =>
        cases hentry.symm.trans h
        exact hv

/-- What is read of a field is read of its entry. -/
theorem entry_of_readField (h : readField (.dict entries) f = .ok w) :
    ∃ v, given? entries f = some v ∧ readValue f v = .ok w := by
  rw [readField_eq] at h
  cases hentry : given? entries f with
  | none =>
    rw [lookupField_of_missing hentry] at h
    cases h
  | some v =>
    rw [lookupField_of_entry hentry] at h
    exact ⟨v, rfl, h⟩

theorem raises_check_iff (h : given? entries f = some v) :
    Raises entries (.check f) e ↔ Rejects (.check f) v e := by
  constructor
  · intro hraises
    cases hraises with
    | rejected h' hv =>
      cases h.symm.trans h'
      exact hv
  · exact .rejected h

end Item

end Reading

/-! ## 5. Checking -/

namespace ItemStep

variable {v : Value} {d : Date} {t : TimeOfDay} {offset : Option UtcOffset} {f : ItemField}
  {e : Failure}

theorem rejects_time_iff (hgives : v.GivesTime ⟨d, t, offset⟩) :
    Rejects (.check .exchangeDatetime) v e ↔
      (offset = none ∧ e = .invalid "exchange_datetime" .noOffset) ∨
      ∃ o, offset = some o ∧ ¬ o.InMinutes ∧
        e = .invalid "exchange_datetime" .offsetWithSeconds := by
  constructor
  · intro h
    cases h with
    | noOffset ht =>
      cases hgives.unique ht
      exact .inl ⟨rfl, rfl⟩
    | offsetWithSeconds ht ho =>
      cases hgives.unique ht
      exact .inr ⟨_, rfl, ho, rfl⟩
    | blankText hf => exact absurd hf (by decide)
  · rintro (⟨rfl, rfl⟩ | ⟨o, rfl, ho, rfl⟩)
    · exact .noOffset hgives
    · exact .offsetWithSeconds hgives ho

theorem rejects_direction_iff :
    Rejects (.check .direction) v e ↔ (∀ d : Direction, v.asText? ≠ some d.text) ∧
      e = v.refusal fun shown => .invalid "direction" (.unknownDirection shown) := by
  constructor
  · intro h
    cases h with
    | unknownDirection hno => exact ⟨hno, rfl⟩
    | blankText hf => exact absurd hf (by decide)
  · rintro ⟨hno, rfl⟩
    exact .unknownDirection hno

theorem not_rejects_identifier (hf : f ∈ ItemField.identifiers) : ¬ Rejects (.check f) v e := by
  intro h
  cases h with
  | blankText htext => exact ItemField.not_identifier_of_text htext hf
  | noOffset | offsetWithSeconds | unknownDirection | notCountryCode =>
    exact absurd hf (by decide)

theorem rejects_text_iff (hf : f ∈ ItemField.texts) :
    Rejects (.check f) v e ↔ (∀ s, v.asText? = some s → ¬ NotBlank s) ∧
      e = .invalid f.name .empty := by
  constructor
  · intro h
    cases h with
    | blankText _ hblank => exact ⟨hblank, rfl⟩
    | noOffset | offsetWithSeconds | unknownDirection | notCountryCode =>
      exact absurd hf (by decide)
  · rintro ⟨hblank, rfl⟩
    exact .blankText hf hblank

theorem rejects_country_iff :
    Rejects (.check .endUserCountryCode) v e ↔
      (∀ s, v.asText? = some s → ¬ (TwoCapitals s ∨ ∃ t, TwoCapitals t ∧ s = t ++ "\n")) ∧
      e = v.refusal fun shown => .invalid "end_user_country_code" (.notCountryCode shown) := by
  constructor
  · intro h
    cases h with
    | notCountryCode hno => exact ⟨hno, rfl⟩
    | blankText hf => exact absurd hf (by decide)
  · rintro ⟨hno, rfl⟩
    exact .notCountryCode hno

end ItemStep

namespace Candidate

open ItemStep

variable {c : Candidate} {v : Value} {f : ItemField} {e : Failure}

theorem timestampIn_eq_error_iff
    (hread : Item.readValue .exchangeDatetime v = .ok (c .exchangeDatetime)) :
    c.timestampIn .exchangeDatetime = .error e ↔ Rejects (.check .exchangeDatetime) v e := by
  obtain ⟨⟨d, t, offset⟩, hgives, hc⟩ := Item.readTimestamp_eq_ok_iff.mp hread
  rw [rejects_time_iff hgives, timestampIn, hc]
  cases offset with
  | none =>
    show Except.error (.invalid "exchange_datetime" .noOffset) = Except.error e ↔ _
    simp [eq_comm]
  | some o =>
    show (if h : o.wholeMinutes = true then Except.ok (d, t, _)
      else .error (.invalid "exchange_datetime" .offsetWithSeconds)) = Except.error e ↔ _
    by_cases ho : o.wholeMinutes = true
    · have hminutes := UtcOffset.inMinutes_iff.mpr ho
      rw [dif_pos ho]
      simp [hminutes]
    · have hminutes := mt UtcOffset.inMinutes_iff.mp ho
      rw [dif_neg ho]
      simp [hminutes, eq_comm]

theorem directionIn_eq_error_iff (hread : Item.readValue .direction v = .ok (c .direction)) :
    c.directionIn .direction = .error e ↔ Rejects (.check .direction) v e := by
  obtain rfl : v = c .direction := Except.ok.inj hread
  rw [rejects_direction_iff]
  refine eq_error_iff_of_cases (fun hno => ?_) fun hknown => ?_
  · rw [directionIn]
    split
    next d hd =>
      obtain ⟨s, hs, hd⟩ := Option.bind_eq_some_iff.mp hd
      exact absurd (hs.trans (congrArg some (Direction.ofText?_eq_some_iff.mp hd))) (hno d)
    next => rfl
  · simp only [not_forall, not_not] at hknown
    obtain ⟨d, hd⟩ := hknown
    exact ⟨d, directionIn_eq_ok_iff.mpr hd⟩

theorem textIn_eq_error_iff (hf : f ∈ ItemField.texts) (hread : Item.readValue f v = .ok (c f)) :
    c.textIn f = .error e ↔ Rejects (.check f) v e := by
  obtain rfl : v = c f := by
    cases f with
    | transportProtocol | endUserId => exact Except.ok.inj hread
    | _ => exact absurd hf (by decide)
  rw [rejects_text_iff hf]
  refine eq_error_iff_of_cases (fun hblank => ?_) fun hfilled => ?_
  · rw [textIn]
    split
    next s hs => exact dif_neg fun hfilled => hblank s hs (notBlank_iff.mpr hfilled)
    next => rfl
  · simp only [not_forall, not_not] at hfilled
    obtain ⟨s, hs, hfilled⟩ := hfilled
    exact ⟨⟨s, notBlank_iff.mp hfilled⟩, textIn_eq_ok_iff.mpr hs⟩

theorem countryIn_eq_error_iff
    (hread : Item.readValue .endUserCountryCode v = .ok (c .endUserCountryCode)) :
    c.countryIn .endUserCountryCode = .error e ↔ Rejects (.check .endUserCountryCode) v e := by
  obtain rfl : v = c .endUserCountryCode := Except.ok.inj hread
  rw [rejects_country_iff]
  refine eq_error_iff_of_cases (fun hno => ?_) fun hcode => ?_
  · rw [countryIn]
    split
    next s hs => exact dif_neg fun hcode => hno s hs (isCountryCode_iff.mp hcode)
    next => rfl
  · simp only [not_forall, not_not] at hcode
    obtain ⟨s, hs, hcode⟩ := hcode
    exact ⟨⟨s, isCountryCode_iff.mpr hcode⟩, countryIn_eq_ok_iff.mpr hs⟩

/-- An identifier that was read passes. -/
theorem identifierIn_eq_error_iff (hf : f ∈ ItemField.identifiers)
    (hread : Item.readValue f v = .ok (c f)) :
    c.identifierIn f = .error e ↔ Rejects (.check f) v e := by
  cases f with
  | senderId | receiverId | documentTypeId | processId =>
    obtain ⟨i, _, hi⟩ := map_eq_ok.mp hread
    rw [identifierIn_eq_ok_iff.mpr hi.symm]
    exact iff_of_false (by simp) (not_rejects_identifier hf)
  | _ => exact absurd hf (by decide)

end Candidate

/-! ## 6. Both rounds -/

namespace Item

open ItemStep

variable {entries : List (Value × Value)}

/-- **The first round**: the values are collected up to the first field that cannot be read. -/
theorem collect_follows :
    Follows (Raises entries) (ItemField.all.map .read)
      (Candidate.collect (readField (.dict entries))) := by
  have hstep (f : ItemField) : Follows (Raises entries) [.read f] (readField (.dict entries) f) :=
    .single fun e => readField_eq_error_iff.symm
  refine (hstep .exchangeDatetime).bind fun _ _ => ?_
  refine (hstep .direction).bind fun _ _ => ?_
  refine (hstep .senderId).bind fun _ _ => ?_
  refine (hstep .receiverId).bind fun _ _ => ?_
  refine (hstep .documentTypeId).bind fun _ _ => ?_
  refine (hstep .processId).bind fun _ _ => ?_
  refine (hstep .transportProtocol).bind fun _ _ => ?_
  refine (hstep .endUserCountryCode).bind fun _ _ => ?_
  refine (hstep .endUserId).bind fun _ _ => ?_
  exact .ok (List.forall_mem_nil _)

/-- **The second round**: the values that were read are checked up to the first that is refused. -/
theorem check_follows {c : Candidate} (hread : ∀ f, readField (.dict entries) f = .ok (c f)) :
    Follows (Raises entries) (ItemField.all.map .check) c.check := by
  have hstep {f : ItemField} {α : Type} {r : Except Failure α}
      (h : ∀ v e, readValue f v = .ok (c f) → (r = .error e ↔ Rejects (.check f) v e)) :
      Follows (Raises entries) [.check f] r := by
    obtain ⟨v, hentry, hv⟩ := entry_of_readField (hread f)
    exact .single fun e => (raises_check_iff hentry).trans (h v e hv).symm
  have hidentifier (f : ItemField) (hf : f ∈ ItemField.identifiers) :
      Follows (Raises entries) [.check f] (c.identifierIn f) :=
    hstep fun _ _ => Candidate.identifierIn_eq_error_iff hf
  have htext (f : ItemField) (hf : f ∈ ItemField.texts) :
      Follows (Raises entries) [.check f] (c.textIn f) :=
    hstep fun _ _ => Candidate.textIn_eq_error_iff hf
  refine (hstep fun _ _ => Candidate.timestampIn_eq_error_iff).bind fun _ _ => ?_
  refine (hstep fun _ _ => Candidate.directionIn_eq_error_iff).bind fun _ _ => ?_
  refine (hidentifier .senderId (by decide)).bind fun _ _ => ?_
  refine (hidentifier .receiverId (by decide)).bind fun _ _ => ?_
  refine (hidentifier .documentTypeId (by decide)).bind fun _ _ => ?_
  refine (hidentifier .processId (by decide)).bind fun _ _ => ?_
  refine (htext .transportProtocol (by decide)).bind fun _ _ => ?_
  refine (hstep fun _ _ => Candidate.countryIn_eq_error_iff).bind fun _ _ => ?_
  refine (htext .endUserId (by decide)).bind fun _ _ => ?_
  exact .ok (List.forall_mem_nil _)

/-- **How reading an item ends**: as the first step says that fails. -/
theorem readFields_follows (entries : List (Value × Value)) :
    Follows (Raises entries) inOrder (readFields (.dict entries)) := by
  rw [readFields_eq]
  exact collect_follows.bind fun c hc => check_follows (Candidate.collect_eq_ok_iff.mp hc)

/-! ## 7. What failures name -/

/-- What the failures of identifiers name. -/
def identifierParts : List String := ["identifier URI", "identifier scheme", "identifier value"]

/-- A field holds a value that is not the written form of an identifier where one must stand. -/
def Malformed (entries : List (Value × Value)) (f : ItemField) : Prop :=
  f ∈ ItemField.identifiers ∧ ∃ v, given? entries f = some v ∧ ¬ v.WritesIdentifier

theorem malformed_of_rejects {f : ItemField} {v : Value} {e : Failure}
    (hentry : given? entries f = some v) (hf : f ∈ ItemField.identifiers)
    (hrejects : Rejects (.read f) v e) : Malformed entries f := by
  refine ⟨hf, v, hentry, ?_⟩
  rintro ⟨i, hwrites⟩
  cases ((Identifier.ofValue_eq_error_iff hf).mpr hrejects).symm.trans
    (Identifier.ofValue_eq_ok_iff.mpr hwrites)

/-- A field holds a value that would be shown where it is refused, and cannot be: a number in it is
    too long to be written. -/
def Unshowable (entries : List (Value × Value)) (f : ItemField) : Prop :=
  f ∈ ItemField.shown ∧ ∃ v, given? entries f = some v ∧ v.ShowsLong

/-- **What the failure of a flaw of a field names.** -/
inductive Names (entries : List (Value × Value)) (f : ItemField) : Failure → Prop where
  /-- It names the field. -/
  | field {d : Defect} (hshown : ¬ Unshowable entries f) (hform : ¬ Malformed entries f) :
      Names entries f (.invalid f.name d)
  /-- The field holds a malformed identifier: it names a part of an identifier and no field. -/
  | part {part : String} {d : Defect} (hshown : ¬ Unshowable entries f)
      (hform : Malformed entries f) (hpart : part ∈ identifierParts) :
      Names entries f (.invalid part d)
  /-- The value cannot be shown: it names the time, whichever field this is. -/
  | time (hshown : Unshowable entries f) :
      Names entries f
        (.invalid "exchange_datetime" (.unreadable Failure.numberTooLong.message))

section Names

variable {entries : List (Value × Value)} {f : ItemField} {v : Value} {e : Failure}

theorem not_unshowable (hentry : given? entries f = some v) (h : ¬ v.ShowsLong) :
    ¬ Unshowable entries f := by
  rintro ⟨-, w, hw, hlong⟩
  cases hentry.symm.trans hw
  exact h hlong

/-- A failure that shows the value of a field names what it says, or the time if the value cannot
    be shown. -/
theorem Names.of_refusal {failure : String → Failure} (hentry : given? entries f = some v)
    (hf : f ∈ ItemField.shown)
    (h : ∀ shown, ¬ Unshowable entries f → Names entries f (attributed (failure shown))) :
    Names entries f (attributed (v.refusal failure)) := by
  rcases v.refusal_cases failure with ⟨hlong, hrefusal⟩ | ⟨hshort, shown, -, hrefusal⟩
  · rw [hrefusal]
    exact .time ⟨hf, v, hentry, hlong⟩
  · rw [hrefusal]
    exact h shown (not_unshowable hentry hshort)

/-- **What the failure of a flaw names**: the field, with two exceptions. -/
theorem Flaw.named {step : ItemStep} (h : Flaw entries step e) : Names entries step.field e := by
  obtain ⟨raised, hraises, rfl⟩ := h
  cases hraises with
  | missing hnone =>
    refine .field ?_ ?_
    · rintro ⟨-, v, hentry, -⟩
      cases hnone.symm.trans hentry
    · rintro ⟨-, v, hentry, -⟩
      cases hnone.symm.trans hentry
  | rejected hentry hrejects =>
    have hother (hf : step.field ∉ ItemField.identifiers) : ¬ Malformed entries step.field :=
      fun h => hf h.1
    have hunshown (hf : step.field ∉ ItemField.shown) : ¬ Unshowable entries step.field :=
      fun h => hf h.1
    have hsplit {v : Value} {scheme value : String} (hentry : given? entries step.field = some v)
        (h : v.SplitsInto scheme value) : ¬ Unshowable entries step.field :=
      not_unshowable hentry (Value.not_showsLong_of_text h.1)
    cases hrejects with
    | malformed hs he =>
      rcases Value.refusal_cases _ _ with ⟨hlong, -⟩ | ⟨-, shown, -, hrefusal⟩
      · exact absurd hlong (Value.not_showsLong_of_text hs)
      · rw [hrefusal]
        exact .field (hunshown (by decide)) (hother (by decide))
    | noSeparator hf hno =>
      have hmalformed := malformed_of_rejects hentry hf (.noSeparator hf hno)
      exact .of_refusal hentry (ItemField.shown_of_identifier hf) fun _ hshown =>
        .part hshown hmalformed (by decide)
    | blankScheme hf hs hblank =>
      exact .part (hsplit hentry hs)
        (malformed_of_rejects hentry hf (.blankScheme hf hs hblank)) (by decide)
    | blankValue hf hs hscheme hblank =>
      exact .part (hsplit hentry hs)
        (malformed_of_rejects hentry hf (.blankValue hf hs hscheme hblank)) (by decide)
    | unknownDirection | notCountryCode =>
      exact .of_refusal hentry (by decide) fun _ hshown => .field hshown (hother (by decide))
    | blankText hf =>
      exact .field (hunshown (ItemField.not_shown_of_text hf))
        (hother (ItemField.not_identifier_of_text hf))
    | notText | noTime | noOffset | offsetWithSeconds =>
      exact .field (hunshown (by decide)) (hother (by decide))

end Names

/-- There is nothing wrong at a step. -/
def Flawless (entries : List (Value × Value)) (step : ItemStep) : Prop :=
  ∀ e, ¬ Flaw entries step e

/-- **How reading an item from a dictionary ends**, whatever its entries. The failure is that of
    the first flaw in the order of the steps, and there is an item exactly if there is no flaw. A
    failure names the field that is missing or whose value is refused, with two exceptions: that of
    a malformed identifier names a part of an identifier instead, and that of a value which cannot
    be shown names the time. -/
theorem ofDict_flaws (entries : List (Value × Value)) :
    (∀ e, ofDict (.dict entries) = .error e ↔
      ∃ step, StopsAt (Flawless entries) inOrder step ∧ Flaw entries step e) ∧
    ((∃ i, ofDict (.dict entries) = .ok i) ↔ ∀ step ∈ inOrder, Flawless entries step) ∧
    ∀ step e, Flaw entries step e → Names entries step.field e :=
  have h := (readFields_follows entries).mapError
  ⟨fun _ => h.error_iff, h.ok_iff, fun _ _ => Flaw.named⟩

/-- No part of an identifier has the name of a field. -/
theorem name_not_identifierPart (f : ItemField) : f.name ∉ identifierParts := by
  cases f
  all_goals decide

/-- The texts of an invoice, in which the scheme of the sender was forgotten. -/
def unqualifiedSender : List (String × String) :=
  Origin.finnishInvoice.toEntries.map fun e =>
    (e.1, if e.1 = "sender_id" then "9915:sender" else e.2)

theorem ofDict_unqualifiedSender :
    ofDict (.dict (unqualifiedSender.map fun e => (.text e.1, .text e.2))) =
      .error (.invalid "identifier URI" (.notSchemeValue "'9915:sender'")) := by
  have hlookup (f : ItemField) (s : String)
      (hs : (unqualifiedSender.find? fun e => e.1 == f.name) = some (f.name, s)) :
      lookupField (.dict (unqualifiedSender.map fun e => (.text e.1, .text e.2))) f =
        .ok (.text s) := by
    simp only [lookupField, Value.lookup?_texts, hs, Option.map_some]
  rw [ofDict, readFields, hlookup .exchangeDatetime Origin.finnishInvoice.exchangedAt.iso rfl,
    hlookup .direction "receiving" rfl, hlookup .senderId "9915:sender" rfl, ok_bind,
    readTimestamp_text]
  rfl

/-- **A malformed identifier is not named by its field**: nothing in the failure says which of the
    four it is. -/
theorem ofDict_unnamed :
    ¬ ∀ entries : List (Value × Value), (∃ i, ofDict (.dict entries) = .ok i) ∨
      ∃ (f : ItemField) (d : Defect), ofDict (.dict entries) = .error (.invalid f.name d) := by
  intro h
  rcases h (unqualifiedSender.map fun e => (.text e.1, .text e.2)) with ⟨i, hi⟩ | ⟨f, d, hfd⟩
  · cases ofDict_unqualifiedSender.symm.trans hi
  · have hname := (Failure.invalid.inj
      (Except.error.inj (ofDict_unqualifiedSender.symm.trans hfd))).1
    exact name_not_identifierPart f (hname ▸ List.mem_cons_self)

end Item

end PeppolStatistics
