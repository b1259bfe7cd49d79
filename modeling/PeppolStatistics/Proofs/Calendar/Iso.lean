import PeppolStatistics.Proofs.Text.Digits

/-!
# Reading back dates and times

The written form of a date, a time of day, an offset and a point in time is read back.

* `dateParts?_isoChars`, `clock?_isoChars`: the parts of a date and of a clock;
* `offset?_isoChars`: an offset of at least a second; one of less than a second is read as
  universal time (`UtcOffset.written`);
* `DateTime.ofIso_iso`: a point in time, with the local date and time as they were;
* `Date.ofIso_iso`: a date.
-/

namespace PeppolStatistics

open Numeral

/-- The offset for which the written form of an offset stands: one of less than a second stands
    for none. -/
def UtcOffset.written (o : UtcOffset) : UtcOffset := if o.micros.natAbs < 1000000 then .utc else o

/-- An offset without seconds stands for itself. -/
theorem UtcOffset.written_of_wholeMinutes {o : UtcOffset} (h : o.wholeMinutes = true) :
    o.written = o := by
  have hmod : o.micros % 60000000 = 0 := by simpa [wholeMinutes] using h
  rw [written]
  split
  · have hzero : o.micros = 0 := by omega
    obtain ⟨micros, _, _⟩ := o
    subst hzero
    rfl
  · rfl

namespace Iso

/-! ## 1. Characters -/

theorem digits?_fixedDigits_self {width n : Nat} (h : n < 10 ^ width) :
    digits? width (fixedDigits width n) = some (n, []) := by
  have hread := digits?_fixedDigits h []
  rwa [List.append_nil] at hread

theorem fixedDigits_ne_nil (width n : Nat) : fixedDigits (width + 1) n ≠ [] := by
  intro h
  have hlen := length_fixedDigits (width + 1) n
  rw [h] at hlen
  cases hlen

/-- No digit begins an offset or a week, and none separates the parts of a text. -/
theorem digit_plain {d : Nat} (h : d < 10) :
    beginsOffset (digitChar d) = false ∧ digitChar d ≠ 'W' ∧ digitChar d ≠ 'T' := by
  revert d
  decide

theorem not_beginsOffset_of_mem_fixedDigits {width n : Nat} {c : Char}
    (h : c ∈ fixedDigits width n) : beginsOffset c = false := by
  obtain ⟨d, hd, rfl⟩ := exists_of_mem_fixedDigits h
  exact (digit_plain hd).1

theorem not_T_mem_fixedDigits (width n : Nat) : 'T' ∉ fixedDigits width n := by
  intro h
  obtain ⟨d, hd, hT⟩ := exists_of_mem_fixedDigits h
  exact (digit_plain hd).2.2 hT.symm

/-! ## 2. Dates -/

theorem length_isoChars (d : Date) : d.isoChars.length = 10 := by
  simp [Date.isoChars]

/-- What a date is read by: a hyphen behind the year, and no letter for the week behind that. -/
theorem getElem?_isoChars (d : Date) (rest : List Char) :
    (d.isoChars ++ rest)[4]? = some '-' ∧ (d.isoChars ++ rest)[5]? ≠ some 'W' := by
  have hmonth : fixedDigits 2 d.month = [digitChar (d.month / 10), digitChar d.month] := rfl
  have hdigit : digitChar (d.month / 10) ≠ 'W' := by
    have := d.month_mem
    exact (digit_plain (by omega)).2.1
  constructor
  · simp [Date.isoChars]
  · simp [Date.isoChars, List.getElem?_append_right, hmonth, hdigit]

/-- **The parts of a date are read back.** -/
theorem dateParts?_isoChars (d : Date) (size : Nat) (rest : List Char) :
    dateParts? size (d.isoChars ++ rest) = some (d.year, d.month, d.day) := by
  have hyear : d.year < 10 ^ 4 := by have := d.year_mem; omega
  have hmonth : d.month < 10 ^ 2 := by have := d.month_mem; omega
  have hday : d.day < 10 ^ 2 := by
    have := d.day_mem
    have := daysInMonth_le d.year d.month
    omega
  have hshape : d.isoChars ++ rest = fixedDigits 4 d.year ++ '-' :: (fixedDigits 2 d.month ++
      '-' :: (fixedDigits 2 d.day ++ rest)) := by
    simp [Date.isoChars]
  rw [dateParts?, hshape, digits?_fixedDigits hyear]
  simp only [Option.bind_eq_bind, Option.bind_some, List.head?_cons, beq_self_eq_true, if_true,
    List.drop_succ_cons, List.drop_zero]
  split
  · rename_i hweek
    have hdigit : digitChar (d.month / 10) = 'W' := (List.cons.inj hweek).1
    exact absurd hdigit (digit_plain (by omega)).2.1
  · rw [digits?_fixedDigits hmonth]
    simp [digits?_fixedDigits hday]

/-! ## 3. Clocks -/

section Clocks

variable {v us : Nat}

theorem clockParts?_last (n : Nat) (known : Option Bool) (hv : v < 10 ^ 2) :
    clockParts? (n + 1) known (fixedDigits 2 v) = some ([v], 0, false) := by
  rw [clockParts?, digits?_fixedDigits_self hv]
  rfl

/-- A pair of digits with a colon behind it, where colons are expected. -/
theorem clockParts?_colon (n : Nat) {known : Option Bool} (hknown : known.getD true = true)
    (hv : v < 10 ^ 2) {after : List Char} (hafter : after ≠ []) :
    clockParts? (n + 1) known (fixedDigits 2 v ++ ':' :: after) =
      (clockParts? n (some true) after).map fun (vs, r) => (v :: vs, r) := by
  rw [clockParts?, digits?_fixedDigits hv]
  simp [hafter, hknown]

/-- The last pair of digits with a fraction of six digits behind it. -/
theorem clockParts?_fraction (n : Nat) (hv : v < 10 ^ 2) (hus : us < 10 ^ 6) :
    clockParts? (n + 1) (some true) (fixedDigits 2 v ++ '.' :: fixedDigits 6 us) =
      some ([v], us, false) := by
  have hfraction : fraction? (fixedDigits 6 us) = some (us, []) := by
    rw [fraction?, length_fixedDigits]
    show (digits? 6 (fixedDigits 6 us)).map _ = _
    rw [digits?_fixedDigits_self hus]
    simp
  rw [clockParts?, digits?_fixedDigits hv]
  simp [fixedDigits_ne_nil, hfraction]

/-- The seconds of a clock, with a fraction unless it is zero. -/
theorem clockParts?_seconds (n : Nat) (hv : v < 10 ^ 2) (hus : us < 10 ^ 6) :
    clockParts? (n + 1) (some true)
        (fixedDigits 2 v ++ (if us = 0 then [] else '.' :: fixedDigits 6 us)) =
      some ([v], us, false) := by
  split
  · rename_i hzero
    rw [List.append_nil, clockParts?_last n _ hv, hzero]
  · exact clockParts?_fraction n hv hus

end Clocks

/-- **A time of day is read back.** -/
theorem clock?_isoChars (t : TimeOfDay) :
    clock? t.isoChars = some ⟨t.hour, t.minute, t.second, t.microsecond, false⟩ := by
  have hhour : t.hour < 10 ^ 2 := by have := t.hour_lt; omega
  have hminute : t.minute < 10 ^ 2 := by rw [TimeOfDay.minute]; omega
  have hsecond : t.second < 10 ^ 2 := by rw [TimeOfDay.second]; omega
  have hmicros : t.microsecond < 10 ^ 6 := by rw [TimeOfDay.microsecond]; omega
  have hshape : t.isoChars = fixedDigits 2 t.hour ++ ':' :: (fixedDigits 2 t.minute ++
      ':' :: (fixedDigits 2 t.second ++
        (if t.microsecond = 0 then [] else '.' :: fixedDigits 6 t.microsecond))) := by
    simp [TimeOfDay.isoChars]
  rw [clock?, hshape, clockParts?_colon 2 rfl hhour (by simp [fixedDigits_ne_nil]),
    clockParts?_colon 1 rfl hminute (by simp [fixedDigits_ne_nil]),
    clockParts?_seconds 0 hsecond hmicros]
  rfl

/-! ## 4. Offsets -/

/-- The clock behind the sign of an offset of some microseconds. -/
def spanChars (us : Nat) : List Char :=
  fixedDigits 2 (us / 3600000000) ++ ':' :: fixedDigits 2 (us / 60000000 % 60)
    ++ (if us % 60000000 = 0 then []
        else ':' :: fixedDigits 2 (us / 1000000 % 60)
          ++ (if us % 1000000 = 0 then [] else '.' :: fixedDigits 6 (us % 1000000)))

theorem offset_isoChars (o : UtcOffset) :
    o.isoChars = (if o.micros < 0 then '-' else '+') :: spanChars o.micros.natAbs := rfl

theorem clock?_spanChars {us : Nat} (hus : us < 86400000000) :
    clock? (spanChars us) = some ⟨us / 3600000000, us / 60000000 % 60, us / 1000000 % 60,
      us % 1000000, false⟩ := by
  have hhour : us / 3600000000 < 10 ^ 2 := by omega
  have hminute : us / 60000000 % 60 < 10 ^ 2 := by omega
  have hsecond : us / 1000000 % 60 < 10 ^ 2 := by omega
  have hmicros : us % 1000000 < 10 ^ 6 := by omega
  rw [clock?, spanChars]
  split
  · rename_i hwhole
    have hzero : us / 1000000 % 60 = 0 ∧ us % 1000000 = 0 := by omega
    rw [List.append_nil, clockParts?_colon 2 rfl hhour (fixedDigits_ne_nil 1 _),
      clockParts?_last 1 _ hminute, hzero.1, hzero.2]
    rfl
  · rw [List.append_assoc, List.cons_append, List.cons_append,
      clockParts?_colon 2 rfl hhour (by simp [fixedDigits_ne_nil]),
      clockParts?_colon 1 rfl hminute (by simp [fixedDigits_ne_nil]),
      clockParts?_seconds 0 hsecond hmicros]
    rfl

/-- The microseconds behind a sign: none if they are less than a second. -/
theorem offset?_span {sign : Char} (hsign : sign ≠ 'Z') {us : Nat} (hus : us < 86400000000) :
    offset? (sign :: spanChars us) =
      some (if sign == '-' then -(if us < 1000000 then 0 else (us : Int))
        else if us < 1000000 then 0 else (us : Int)) := by
  have hmicros : ∀ seconds : Int, seconds = us / 1000000 →
      (if seconds = 0 then 0 else seconds * 1000000 + (us % 1000000 : Nat)) =
        if us < 1000000 then 0 else (us : Int) := by
    intro seconds hseconds
    split <;> split <;> omega
  rw [offset?.eq_2 _ _ (by simpa using hsign), clock?_spanChars hus,
    ← hmicros _ (by omega : ((us / 3600000000 : Nat) * 60 + (us / 60000000 % 60 : Nat)) * 60
      + (us / 1000000 % 60 : Nat) = (us : Int) / 1000000)]
  rfl

/-- **An offset is read back**, unless it is less than a second. -/
theorem offset?_isoChars (o : UtcOffset) : offset? o.isoChars = some o.written.micros := by
  have hlow := o.lower
  have hhigh := o.upper
  have hus : o.micros.natAbs < 86400000000 := by omega
  have hwritten : o.written.micros = if o.micros.natAbs < 1000000 then 0 else o.micros := by
    rw [UtcOffset.written]
    split <;> rfl
  rw [offset_isoChars, hwritten]
  by_cases hneg : o.micros < 0
  · rw [if_pos hneg, offset?_span (by decide) hus, if_pos (by decide)]
    congr 1
    split <;> omega
  · rw [if_neg hneg, offset?_span (by decide) hus, if_neg (by decide)]
    congr 1
    split <;> omega

/-! ## 5. Points in time -/

/-- No character of a clock begins an offset. -/
theorem not_beginsOffset_of_mem_isoChars (t : TimeOfDay) :
    ∀ c ∈ t.isoChars, (!beginsOffset c) = true := by
  intro c hc
  have hmem : (∃ width n, c ∈ fixedDigits width n) ∨ c = ':' ∨ c = '.' := by
    rw [TimeOfDay.isoChars] at hc
    simp only [List.mem_append, List.mem_cons] at hc
    rcases hc with ((hc | rfl | hc) | rfl | hc) | hc
    · exact .inl ⟨_, _, hc⟩
    · exact .inr (.inl rfl)
    · exact .inl ⟨_, _, hc⟩
    · exact .inr (.inl rfl)
    · exact .inl ⟨_, _, hc⟩
    · split at hc
      · cases hc
      · rcases List.mem_cons.mp hc with rfl | hc
        · exact .inr (.inr rfl)
        · exact .inl ⟨_, _, hc⟩
  rcases hmem with ⟨width, n, hc⟩ | rfl | rfl
  · rw [not_beginsOffset_of_mem_fixedDigits hc]
    rfl
  · rfl
  · rfl

/-- **A clock with its offset is read back.** -/
theorem timeParts?_isoChars (t : TimeOfDay) (o : Option UtcOffset) :
    timeParts? (t.isoChars ++ (o.map (·.isoChars)).getD []) =
      some (⟨t.hour, t.minute, t.second, t.microsecond, false⟩, o.map (·.written.micros)) := by
  have hplain := not_beginsOffset_of_mem_isoChars t
  rw [timeParts?, List.takeWhile_append_of_pos hplain, List.dropWhile_append_of_pos hplain]
  cases o with
  | none =>
    simp [clock?_isoChars]
  | some o =>
    have hbegins : ∃ sign, beginsOffset sign = true ∧ o.isoChars = sign :: spanChars o.micros.natAbs := by
      refine ⟨_, ?_, offset_isoChars o⟩
      split <;> rfl
    obtain ⟨sign, hsign, hchars⟩ := hbegins
    have hoffset := offset?_isoChars o
    rw [hchars] at hoffset
    simp [hchars, hsign, hoffset, clock?_isoChars]

theorem dateSize?_isoChars (d : Date) (separator : Char) (rest : List Char) :
    dateSize? (d.isoChars ++ separator :: rest) = some 10 := by
  obtain ⟨hyear, hweek⟩ := getElem?_isoChars d (separator :: rest)
  have hlen : (d.isoChars ++ separator :: rest).length = rest.length + 11 := by
    rw [List.length_append, length_isoChars, List.length_cons]
    omega
  rw [dateSize?, hlen, if_neg (by omega), if_neg (by omega), hyear, if_pos (by decide),
    if_neg (by simpa using hweek)]

theorem dateTimeParts?_isoChars (t : DateTime) (separator : Char) :
    dateTimeParts? (t.charsWith separator) =
      some ((t.date.year, t.date.month, t.date.day),
        ⟨t.time.hour, t.time.minute, t.time.second, t.time.microsecond, false⟩,
        t.offset.map (·.written.micros)) := by
  have hshape : t.charsWith separator = t.date.isoChars ++ separator ::
      (t.time.isoChars ++ (t.offset.map (·.isoChars)).getD []) := by
    simp [DateTime.charsWith]
  have hdrop : (t.date.isoChars ++ separator ::
      (t.time.isoChars ++ (t.offset.map (·.isoChars)).getD [])).drop 10 =
      separator :: (t.time.isoChars ++ (t.offset.map (·.isoChars)).getD []) :=
    List.drop_left' (length_isoChars t.date)
  rw [hshape, dateTimeParts?, dateSize?_isoChars, Option.bind_eq_bind, Option.bind_some,
    dateParts?_isoChars, hdrop]
  simp [timeParts?_isoChars]

theorem ofParts_date (d : Date) : Date.ofParts d.year d.month d.day = .ok d := by
  rw [Date.ofParts, dif_pos d.year_mem, dif_pos d.month_mem, dif_pos d.day_mem]

theorem ofParts_time (t : TimeOfDay) :
    TimeOfDay.ofParts t.hour t.minute t.second t.microsecond = .ok t := by
  have hminute : t.minute < 60 := Nat.mod_lt _ (by decide)
  have hsecond : t.second < 60 := Nat.mod_lt _ (by decide)
  rw [TimeOfDay.ofParts, if_pos t.hour_lt, if_pos hminute, if_pos hsecond,
    TimeOfDay.ofParts?_self, Option.getD_some]

end Iso

/-- **A point in time is read back** with its local date and time, whatever stands between them;
    its offset is the one that the written form stands for. -/
theorem DateTime.ofIso_charsWith (t : DateTime) (separator : Char) :
    Iso.dateTime (t.charsWith separator) =
      .ok { t with offset := t.offset.map UtcOffset.written } := by
  rw [Iso.dateTime, Iso.dateTimeParts?_isoChars]
  simp only [Iso.ofParts_date, Iso.ofParts_time]
  cases t.offset with
  | none => rfl
  | some o =>
    simp only [Option.map_some, UtcOffset.ofMicros?_self]
    rfl

/-- **The text of a point in time is read back.** -/
theorem DateTime.ofIso_iso (t : DateTime) :
    DateTime.ofIso t.iso = .ok { t with offset := t.offset.map UtcOffset.written } := by
  rw [ofIso, iso, String.toList_ofList]
  exact ofIso_charsWith t 'T'

/-- **The text of a date is read back.** -/
theorem Date.ofIso_iso (d : Date) : Date.ofIso d.iso = .ok d := by
  have hsize : d.iso.utf8ByteSize = 10 := by
    have hhyphen : '-'.utf8Size = 1 := rfl
    rw [iso, String.utf8ByteSize_ofList, isoChars]
    simp [utf8Len_fixedDigits, hhyphen]
  have hparts := Iso.dateParts?_isoChars d 10 []
  rw [List.append_nil] at hparts
  rw [ofIso, iso, String.toList_ofList, Iso.date, ← iso, hsize, if_pos (by decide), hparts]
  exact Iso.ofParts_date d

end PeppolStatistics
