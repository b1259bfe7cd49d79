import Mathlib.Data.String.Basic
import PeppolStatistics.Calendar.Iso.Reader

/-!
# Reading back written digits

A number that was written with a fixed number of decimal digits is read back, by the reader of
dates (`digits?_fixedDigits`) and by the reader of whole numbers (`readInt?_fixedDigits`).
Both go through the digit values of the number (`decimals`).
-/

namespace PeppolStatistics

namespace Numeral

/-! ## 1. Digit values -/

/-- The values of the last `width` decimal digits of a number. -/
def decimals : Nat → Nat → List Nat
  | 0, _ => []
  | width + 1, n => decimals width (n / 10) ++ [n % 10]

theorem fixedDigits_eq (width n : Nat) : fixedDigits width n = (decimals width n).map digitChar := by
  induction width generalizing n with
  | zero => rfl
  | succ width ih =>
    rw [fixedDigits, decimals, List.map_append, ih, List.map_singleton, digitChar, digitChar,
      Nat.mod_mod]

theorem length_decimals (width n : Nat) : (decimals width n).length = width := by
  induction width generalizing n with
  | zero => rfl
  | succ width ih => rw [decimals, List.length_append, ih, List.length_singleton]

theorem lt_of_mem_decimals {width n d : Nat} (h : d ∈ decimals width n) : d < 10 := by
  induction width generalizing n with
  | zero => cases h
  | succ width ih =>
    rcases List.mem_append.mp h with h | h
    · exact ih h
    · rw [List.mem_singleton.mp h]
      exact Nat.mod_lt n (by decide)

/-- The digits of a number that needs no more of them denote the number. -/
theorem ofDigits_decimals {width n : Nat} (h : n < 10 ^ width) :
    ofDigits 10 (decimals width n) = n := by
  induction width generalizing n with
  | zero => exact (Nat.lt_one_iff.mp h).symm
  | succ width ih =>
    have hquot : n / 10 < 10 ^ width := by
      rw [Nat.pow_succ] at h
      omega
    rw [decimals, ofDigits, List.foldl_append, ← ofDigits, ih hquot]
    exact Nat.div_add_mod' n 10

/-! ## 2. Single digits -/

theorem asciiDigit?_digitChar {d : Nat} (h : d < 10) : asciiDigit? (digitChar d) = some d := by
  revert d
  decide

theorem digitValue?_digitChar {d : Nat} (h : d < 10) : digitValue? (digitChar d) = some d := by
  revert d
  decide

/-- A character of a written number is the character of a digit. -/
theorem exists_of_mem_fixedDigits {width n : Nat} {c : Char} (h : c ∈ fixedDigits width n) :
    ∃ d, d < 10 ∧ c = digitChar d := by
  rw [fixedDigits_eq] at h
  obtain ⟨d, hd, rfl⟩ := List.mem_map.mp h
  exact ⟨d, lt_of_mem_decimals hd, rfl⟩

/-- A written number takes one byte for each digit. -/
theorem utf8Len_fixedDigits (width n : Nat) : String.utf8Len (fixedDigits width n) = width := by
  have hbyte : ∀ d, d < 10 → (digitChar d).utf8Size = 1 := by decide
  induction width generalizing n with
  | zero => rfl
  | succ width ih =>
    have hlast : (digitChar n).utf8Size = 1 := by
      rw [digitChar, ← Nat.mod_mod, ← digitChar]
      exact hbyte _ (Nat.mod_lt n (by decide))
    rw [fixedDigits, String.utf8Len_append, ih, String.utf8Len_cons, String.utf8Len_nil, hlast]

/-! ## 3. Reading -/

theorem mapM_asciiDigit? (ds : List Nat) (h : ∀ d ∈ ds, d < 10) :
    (ds.map digitChar).mapM asciiDigit? = some ds := by
  induction ds with
  | nil => rfl
  | cons d ds ih =>
    have hd := asciiDigit?_digitChar (h d List.mem_cons_self)
    have hrest := ih fun d' hd' => h d' (List.mem_cons_of_mem d hd')
    rw [List.map_cons, List.mapM_cons, hd, hrest]
    rfl

/-- **Written digits are read back**, and nothing behind them is touched. -/
theorem digits?_fixedDigits {width n : Nat} (h : n < 10 ^ width) (rest : List Char) :
    Iso.digits? width (fixedDigits width n ++ rest) = some (n, rest) := by
  have hlen := length_fixedDigits width n
  have htake : (fixedDigits width n ++ rest).take width = fixedDigits width n :=
    List.take_left' hlen
  have hdrop : (fixedDigits width n ++ rest).drop width = rest := List.drop_left' hlen
  have hvalues : (fixedDigits width n).mapM asciiDigit? = some (decimals width n) := by
    rw [fixedDigits_eq]
    exact mapM_asciiDigit? _ fun d => lt_of_mem_decimals
  rw [Iso.digits?, htake, hdrop, hvalues]
  show (if (decimals width n).length = width then some (ofDigits 10 (decimals width n), rest)
    else none) = some (n, rest)
  rw [if_pos (length_decimals width n), ofDigits_decimals h]

/-! ## 4. Reading whole numbers -/

/-- No digit is a blank, a sign or an underscore. -/
theorem digitChar_plain {d : Nat} (h : d < 10) :
    isOuterBlank (digitChar d) = false ∧ digitChar d ≠ '+' ∧ digitChar d ≠ '-' ∧
      digitChar d ≠ '_' := by
  revert d
  decide

theorem groupedDigits?_map {ds : List Nat} (hne : ds ≠ []) (h : ∀ d ∈ ds, d < 10) :
    groupedDigits? (ds.map digitChar) = some ds := by
  induction ds with
  | nil => exact absurd rfl hne
  | cons d ds ih =>
    have hd := digitValue?_digitChar (h d List.mem_cons_self)
    cases ds with
    | nil =>
      rw [List.map_singleton, groupedDigits?, hd]
      rfl
    | cons d' ds =>
      have hrest := ih (List.cons_ne_nil _ _) fun e he => h e (List.mem_cons_of_mem d he)
      have hplain := (digitChar_plain (h d' (by simp))).2.2.2
      rw [List.map_cons, List.map_cons, groupedDigits?, hd, ← List.map_cons, hrest]
      · rfl
      · simp
      · simpa using hplain

theorem trimBy_of_forall {drop : Char → Bool} {cs : List Char} (h : ∀ c ∈ cs, drop c = false) :
    Text.trimBy drop cs = cs := by
  have hkeep : ∀ ds : List Char, (∀ c ∈ ds, drop c = false) → ds.dropWhile drop = ds := by
    intro ds hds
    cases ds with
    | nil => rfl
    | cons c ds =>
      rw [List.dropWhile_cons, hds c List.mem_cons_self]
      rfl
  rw [Text.trimBy, hkeep cs h, hkeep cs.reverse, List.reverse_reverse]
  exact fun c hc => h c (List.mem_reverse.mp hc)

/-- **A number written with at least one digit is read back.** -/
theorem readInt?_fixedDigits {width n : Nat} (hwidth : width + 1 ≤ digitLimit)
    (h : n < 10 ^ (width + 1)) : readInt? (fixedDigits (width + 1) n) = some (n : Int) := by
  have hdigit : ∀ c ∈ fixedDigits (width + 1) n,
      isOuterBlank c = false ∧ c ≠ '+' ∧ c ≠ '-' ∧ c ≠ '_' := by
    intro c hc
    obtain ⟨d, hd, rfl⟩ := exists_of_mem_fixedDigits hc
    exact digitChar_plain hd
  have hnat : readNat? (fixedDigits (width + 1) n) = some n := by
    have hlen := length_decimals (width + 1) n
    have hne : decimals (width + 1) n ≠ [] := fun h => by simp [h] at hlen
    rw [readNat?, fixedDigits_eq, groupedDigits?_map hne fun d => lt_of_mem_decimals]
    show (if (decimals (width + 1) n).length ≤ digitLimit then
      some (ofDigits 10 (decimals (width + 1) n)) else none) = some n
    rw [if_pos (hlen.le.trans hwidth), ofDigits_decimals h]
  rw [readInt?, trimBy_of_forall fun c hc => (hdigit c hc).1]
  split
  · rename_i rest heq
    exact absurd rfl (hdigit '+' (heq ▸ List.mem_cons_self)).2.1
  · rename_i rest heq
    exact absurd rfl (hdigit '-' (heq ▸ List.mem_cons_self)).2.2.1
  · rw [hnat]
    rfl

end Numeral

end PeppolStatistics
