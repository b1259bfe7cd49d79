import PeppolStatistics.Item.Candidate
import PeppolStatistics.Proofs.Checks

/-!
# Checking the values of an item

What the checks of a candidate let through, said of the values themselves.

* `check_eq_ok_iff`: a candidate gives an item exactly if it holds, field by field, the values of
  the item (`Candidate.Describes`). It does not matter whether texts come as such or as members
  of a class: only the text that a value has is looked at;
* `exists_check_eq_ok_iff`: it gives one exactly if each value obeys the rule of its field
  (`Candidate.Valid`);
* `isCountryCode_iff`: what is taken as a country code, a line end after the letters included.
-/

namespace PeppolStatistics

/-! ## 1. Rules -/

/-- A text with a character that is not blank. -/
def NotBlank (s : String) : Prop := ∃ a ∈ s.toList, isBlank a = false

theorem notBlank_iff {s : String} : NotBlank s ↔ Text.hasText s = true := by
  simp [NotBlank, Text.hasText]

/-- A capital letter of the Latin alphabet. -/
def Capital (a : Char) : Prop := 'A' ≤ a ∧ a ≤ 'Z'

theorem isCapital_iff {a : Char} : isCapital a = true ↔ Capital a := by
  simp [isCapital, Capital]

/-- A text of two capital letters. -/
def TwoCapitals (s : String) : Prop := ∃ a b, Capital a ∧ Capital b ∧ s = String.ofList [a, b]

/-- **What is taken as a country code**: two capital letters, or these with a line end after
    them. -/
theorem isCountryCode_iff {s : String} :
    isCountryCode s = true ↔ TwoCapitals s ∨ ∃ t, TwoCapitals t ∧ s = t ++ "\n" := by
  have hline (a b : Char) : String.ofList [a, b] ++ "\n" = String.ofList [a, b, '\n'] := by
    simp only [← String.toList_inj, String.toList_append, String.toList_ofList]
    rfl
  constructor
  · intro h
    rw [isCountryCode] at h
    split at h
    next a b hs =>
      obtain ⟨ha, hb⟩ := Bool.and_eq_true_iff.mp h
      exact .inl ⟨a, b, isCapital_iff.mp ha, isCapital_iff.mp hb,
        String.toList_inj.mp (by rw [hs, String.toList_ofList])⟩
    next a b hs =>
      obtain ⟨ha, hb⟩ := Bool.and_eq_true_iff.mp h
      refine .inr ⟨_, ⟨a, b, isCapital_iff.mp ha, isCapital_iff.mp hb, rfl⟩, ?_⟩
      exact String.toList_inj.mp (by rw [hs, hline, String.toList_ofList])
    next => cases h
  · rintro (⟨a, b, ha, hb, rfl⟩ | ⟨_, ⟨a, b, ha, hb, rfl⟩, rfl⟩)
    · rw [isCountryCode, String.toList_ofList]
      exact Bool.and_eq_true_iff.mpr ⟨isCapital_iff.mpr ha, isCapital_iff.mpr hb⟩
    · rw [hline, isCountryCode, String.toList_ofList]
      exact Bool.and_eq_true_iff.mpr ⟨isCapital_iff.mpr ha, isCapital_iff.mpr hb⟩

/-- An offset of whole minutes. -/
def UtcOffset.InMinutes (o : UtcOffset) : Prop := ∃ n : Int, o.micros = n * 60000000

theorem UtcOffset.inMinutes_iff {o : UtcOffset} : o.InMinutes ↔ o.wholeMinutes = true := by
  rw [InMinutes, wholeMinutes, beq_iff_eq, ← Int.dvd_iff_emod_eq_zero]
  exact exists_congr fun n => by rw [Int.mul_comm]

theorem Direction.ofText?_eq_some_iff {s : String} {d : Direction} :
    ofText? s = some d ↔ s = d.text := by
  constructor
  · intro h
    rw [ofText?] at h
    split at h
    next hs => rw [hs, ← Option.some.inj h, text]
    next =>
      split at h
      next hs => rw [hs, ← Option.some.inj h, text]
      next => cases h
  · rintro rfl
    exact ofText?_text d

namespace Candidate

variable {c : Candidate} {f : ItemField}

/-! ## 2. Single fields -/

theorem identifierIn_eq_ok_iff {i : Identifier} :
    c.identifierIn f = .ok i ↔ c f = .identifier i := by
  constructor
  · intro h
    rw [identifierIn] at h
    split at h
    next j hj => rw [hj, Except.ok.inj h]
    next => cases h
  · intro h
    rw [identifierIn, h]

theorem directionIn_eq_ok_iff {d : Direction} :
    c.directionIn f = .ok d ↔ (c f).asText? = some d.text := by
  have hread : (c f).asText?.bind Direction.ofText? = some d ↔ (c f).asText? = some d.text := by
    rw [Option.bind_eq_some_iff]
    simp only [Direction.ofText?_eq_some_iff]
    exact ⟨fun ⟨s, hs, hd⟩ => hd ▸ hs, fun h => ⟨_, h, rfl⟩⟩
  rw [← hread, directionIn]
  cases (c f).asText?.bind Direction.ofText? with
  | none => exact ⟨nofun, nofun⟩
  | some e => rw [Except.ok.injEq, Option.some.injEq]

theorem textIn_eq_ok_iff {s : { s : String // Text.hasText s = true }} :
    c.textIn f = .ok s ↔ (c f).asText? = some s.1 := by
  constructor
  · intro h
    rw [textIn] at h
    split at h
    next t ht =>
      split at h
      next hs => rw [ht, ← Except.ok.inj h]
      next => cases h
    next => cases h
  · intro h
    rw [textIn, h]
    exact dif_pos s.2

theorem countryIn_eq_ok_iff {s : { s : String // isCountryCode s = true }} :
    c.countryIn f = .ok s ↔ (c f).asText? = some s.1 := by
  constructor
  · intro h
    rw [countryIn] at h
    split at h
    next t ht =>
      split at h
      next hs => rw [ht, ← Except.ok.inj h]
      next => cases h
    next => cases h
  · intro h
    rw [countryIn, h]
    exact dif_pos s.2

theorem timestampIn_eq_ok_iff {d : Date} {t : TimeOfDay}
    {o : { o : UtcOffset // o.wholeMinutes = true }} :
    c.timestampIn f = .ok (d, t, o) ↔ c f = .dateTime ⟨d, t, some o.1⟩ := by
  constructor
  · intro h
    rw [timestampIn] at h
    split at h
    next d' t' o' hc =>
      split at h
      next ho =>
        cases Except.ok.inj h
        exact hc
      next => cases h
    next => cases h
    next => cases h
  · intro h
    rw [timestampIn, h]
    exact dif_pos o.2

/-! ## 3. All fields -/

/-- The candidate holds the values of an item. -/
structure Describes (c : Candidate) (i : Item) : Prop where
  exchangeDatetime : c .exchangeDatetime = .dateTime i.exchangedAt
  direction : (c .direction).asText? = some i.direction.text
  senderId : c .senderId = .identifier i.senderId
  receiverId : c .receiverId = .identifier i.receiverId
  documentTypeId : c .documentTypeId = .identifier i.documentTypeId
  processId : c .processId = .identifier i.processId
  transportProtocol : (c .transportProtocol).asText? = some i.transportProtocol
  endUserCountryCode : (c .endUserCountryCode).asText? = some i.endUserCountryCode
  endUserId : (c .endUserId).asText? = some i.endUserId

/-- **A candidate with the values of an item gives the item.** -/
theorem Describes.check_eq_ok {i : Item} (h : c.Describes i) : c.check = .ok i := by
  have htime := timestampIn_eq_ok_iff (o := ⟨i.offset, i.offset_wholeMinutes⟩).mpr
    h.exchangeDatetime
  have hprotocol := textIn_eq_ok_iff (s := ⟨_, i.transportProtocol_hasText⟩).mpr
    h.transportProtocol
  have hcountry := countryIn_eq_ok_iff (s := ⟨_, i.endUserCountryCode_isCode⟩).mpr
    h.endUserCountryCode
  have huser := textIn_eq_ok_iff (s := ⟨_, i.endUserId_hasText⟩).mpr h.endUserId
  rw [check, htime, directionIn_eq_ok_iff.mpr h.direction, identifierIn_eq_ok_iff.mpr h.senderId,
    identifierIn_eq_ok_iff.mpr h.receiverId, identifierIn_eq_ok_iff.mpr h.documentTypeId,
    identifierIn_eq_ok_iff.mpr h.processId, hprotocol, hcountry, huser]
  rfl

/-- **A candidate gives an item exactly if it holds the values of the item.** -/
theorem check_eq_ok_iff {i : Item} : c.check = .ok i ↔ c.Describes i := by
  refine ⟨fun h => ?_, Describes.check_eq_ok⟩
  obtain ⟨⟨date, time, offset⟩, htime, h⟩ := bind_eq_ok.mp h
  obtain ⟨direction, hdirection, h⟩ := bind_eq_ok.mp h
  obtain ⟨senderId, hsender, h⟩ := bind_eq_ok.mp h
  obtain ⟨receiverId, hreceiver, h⟩ := bind_eq_ok.mp h
  obtain ⟨documentTypeId, hdocumentType, h⟩ := bind_eq_ok.mp h
  obtain ⟨processId, hprocess, h⟩ := bind_eq_ok.mp h
  obtain ⟨transportProtocol, hprotocol, h⟩ := bind_eq_ok.mp h
  obtain ⟨country, hcountry, h⟩ := bind_eq_ok.mp h
  obtain ⟨endUserId, huser, h⟩ := bind_eq_ok.mp h
  obtain rfl := Except.ok.inj h
  exact {
    exchangeDatetime := timestampIn_eq_ok_iff.mp htime
    direction := directionIn_eq_ok_iff.mp hdirection
    senderId := identifierIn_eq_ok_iff.mp hsender
    receiverId := identifierIn_eq_ok_iff.mp hreceiver
    documentTypeId := identifierIn_eq_ok_iff.mp hdocumentType
    processId := identifierIn_eq_ok_iff.mp hprocess
    transportProtocol := textIn_eq_ok_iff.mp hprotocol
    endUserCountryCode := countryIn_eq_ok_iff.mp hcountry
    endUserId := textIn_eq_ok_iff.mp huser }

/-- **The rules of the fields**, for values of any kind. -/
structure Valid (c : Candidate) : Prop where
  /-- The time is a point in time with an offset of whole minutes. -/
  exchangeDatetime : ∃ d t o, c .exchangeDatetime = .dateTime ⟨d, t, some o⟩ ∧ o.InMinutes
  /-- The direction is one of the two, as such or as its text. -/
  direction : ∃ d : Direction, (c .direction).asText? = some d.text
  /-- The four identifiers are identifiers. -/
  identifiers : ∀ f ∈ [ItemField.senderId, .receiverId, .documentTypeId, .processId],
    ∃ i, c f = .identifier i
  /-- The transport protocol and the end user are texts that are not blank. -/
  texts : ∀ f ∈ [ItemField.transportProtocol, .endUserId],
    ∃ s, (c f).asText? = some s ∧ NotBlank s
  /-- The country is a text of two capital letters, with or without a line end. -/
  country : ∃ s, (c .endUserCountryCode).asText? = some s ∧
    (TwoCapitals s ∨ ∃ t, TwoCapitals t ∧ s = t ++ "\n")

/-- **A candidate gives an item exactly if each of its values obeys the rule of its field.** -/
theorem exists_check_eq_ok_iff : (∃ i, c.check = .ok i) ↔ c.Valid := by
  simp only [check_eq_ok_iff]
  constructor
  · rintro ⟨i, h⟩
    refine {
      exchangeDatetime := ⟨i.date, i.time, i.offset, h.exchangeDatetime,
        UtcOffset.inMinutes_iff.mpr i.offset_wholeMinutes⟩
      direction := ⟨i.direction, h.direction⟩
      identifiers := ?_
      texts := ?_
      country := ⟨_, h.endUserCountryCode, isCountryCode_iff.mp i.endUserCountryCode_isCode⟩ }
    · simp only [List.forall_mem_cons]
      exact ⟨⟨_, h.senderId⟩, ⟨_, h.receiverId⟩, ⟨_, h.documentTypeId⟩, ⟨_, h.processId⟩,
        List.forall_mem_nil _⟩
    · simp only [List.forall_mem_cons]
      exact ⟨⟨_, h.transportProtocol, notBlank_iff.mpr i.transportProtocol_hasText⟩,
        ⟨_, h.endUserId, notBlank_iff.mpr i.endUserId_hasText⟩, List.forall_mem_nil _⟩
  · intro h
    obtain ⟨date, time, offset, htime, hoffset⟩ := h.exchangeDatetime
    obtain ⟨direction, hdirection⟩ := h.direction
    have hidentifiers := h.identifiers
    have htexts := h.texts
    simp only [List.forall_mem_cons] at hidentifiers htexts
    obtain ⟨⟨senderId, hsender⟩, ⟨receiverId, hreceiver⟩, ⟨documentTypeId, hdocumentType⟩,
      ⟨processId, hprocess⟩, -⟩ := hidentifiers
    obtain ⟨⟨transportProtocol, hprotocol, hprotocolText⟩, ⟨endUserId, huser, huserText⟩, -⟩ :=
      htexts
    obtain ⟨country, hcountry, hcode⟩ := h.country
    let i : Item := {
      date, time, offset, direction, senderId, receiverId, documentTypeId, processId
      transportProtocol, endUserCountryCode := country, endUserId
      offset_wholeMinutes := UtcOffset.inMinutes_iff.mp hoffset
      transportProtocol_hasText := notBlank_iff.mp hprotocolText
      endUserCountryCode_isCode := isCountryCode_iff.mpr hcode
      endUserId_hasText := notBlank_iff.mp huserText }
    exact ⟨i, htime, hdirection, hsender, hreceiver, hdocumentType, hprocess, hprotocol, hcountry,
      huser⟩

end Candidate

/-! ## 4. An item to look at -/

/-- An invoice exchanged at noon on 15 June 2023, on a clock two hours ahead. -/
def invoice (direction : Direction) (documentType : Identifier) (country : String)
    (country_isCode : isCountryCode country = true) : Item where
  date := ⟨2023, 6, 15, by decide, by decide, by decide⟩
  time := ⟨43200000000, by decide⟩
  offset := ⟨7200000000, by decide, by decide⟩
  direction := direction
  senderId := ⟨"iso6523-actorid-upis", "9915:sender", by decide, by decide⟩
  receiverId := ⟨"iso6523-actorid-upis", "9915:receiver", by decide, by decide⟩
  documentTypeId := documentType
  processId := ⟨"cenbii-procid-ubl", "billing", by decide, by decide⟩
  transportProtocol := "peppol-transport-as4-v2_0"
  endUserCountryCode := country
  endUserId := "end-user-1"
  offset_wholeMinutes := by decide
  transportProtocol_hasText := by decide
  endUserCountryCode_isCode := country_isCode
  endUserId_hasText := by decide

end PeppolStatistics
