import Mathlib.Data.List.TakeWhile
import PeppolStatistics.Proofs.Text.Digits

/-!
# How whole numbers are written

The reader of whole numbers takes more than decimal digits. What it takes is told here as a grammar,
apart from the reader: digits of any script with single underscores between them (`Grouped`), with a
sign or none before them (`Signed`), and blanks at both ends (`Writes`).

* `groupedDigits?_eq_some_iff`, `readNat?_eq_some_iff`: the reader of digits and of numbers without
  a sign;
* `trimBy_append`, `exists_trimBy`: what is left without the blanks at the ends;
* `readInt?_eq_some_iff`: **a text is read as a number exactly if it is one of its written forms.**
-/

namespace PeppolStatistics

namespace Numeral

variable {c : Char} {cs : List Char} {d : Nat} {ds : List Nat} {n : Int}

/-! ## 1. Digits -/

/-- No digit of any script is a blank, a sign or an underscore. -/
theorem digitValue?_plain (h : digitValue? c = some d) :
    isOuterBlank c = false ∧ c ≠ '+' ∧ c ≠ '-' ∧ c ≠ '_' := by
  -- the runs of digits keep clear of the blanks
  have hruns : ∀ z ∈ zeroDigits, (48 ≤ z ∧ z + 9 ≤ 57) ∨ (0xa0 < z ∧ z + 9 < 0x1680) ∨
      (0x1680 < z ∧ z + 9 < 0x2000) ∨ 0x3000 < z := by decide
  obtain ⟨z, hfound, -⟩ := Option.map_eq_some_iff.mp h
  have hrun := hruns z (List.mem_of_find?_eq_some hfound)
  have hc : z ≤ c.toNat ∧ c.toNat ≤ z + 9 := by simpa using List.find?_some hfound
  have hne : ∀ e : Char, e.toNat < 48 ∨ (57 < e.toNat ∧ e.toNat ≤ 0xa0) → c ≠ e := by
    rintro e he rfl
    omega
  refine ⟨?_, hne '+' (by decide), hne '-' (by decide), hne '_' (by decide)⟩
  have hblank : isBlank c = false := by
    rw [isBlank]
    simp only [Bool.or_eq_false_iff, Bool.and_eq_false_iff, decide_eq_false_iff_not,
      beq_eq_false_iff_ne]
    omega
  rw [isOuterBlank, hblank, Bool.false_and]

/-- **Digits with single underscores between them**, and their values. -/
inductive Grouped : List Char → List Nat → Prop
  | last {c : Char} {d : Nat} (h : digitValue? c = some d) : Grouped [c] [d]
  | digit {c : Char} {d : Nat} {cs : List Char} {ds : List Nat} (h : digitValue? c = some d)
      (rest : Grouped cs ds) : Grouped (c :: cs) (d :: ds)
  | underscore {c : Char} {d : Nat} {cs : List Char} {ds : List Nat} (h : digitValue? c = some d)
      (rest : Grouped cs ds) : Grouped (c :: '_' :: cs) (d :: ds)

/-- Grouped digits begin with a digit. -/
theorem Grouped.exists_cons (h : Grouped cs ds) :
    ∃ c d rest, cs = c :: rest ∧ digitValue? c = some d := by
  cases h with
  | last h => exact ⟨_, _, _, rfl, h⟩
  | digit h => exact ⟨_, _, _, rfl, h⟩
  | underscore h => exact ⟨_, _, _, rfl, h⟩

/-- Grouped digits end with a digit. -/
theorem Grouped.exists_concat (h : Grouped cs ds) :
    ∃ rest c d, cs = rest ++ [c] ∧ digitValue? c = some d := by
  induction h with
  | last h => exact ⟨[], _, _, rfl, h⟩
  | digit _ _ ih =>
    obtain ⟨rest, c, d, rfl, hc⟩ := ih
    exact ⟨_ :: rest, c, d, rfl, hc⟩
  | underscore _ _ ih =>
    obtain ⟨rest, c, d, rfl, hc⟩ := ih
    exact ⟨_ :: '_' :: rest, c, d, rfl, hc⟩

/-- **The reader of digits takes exactly the grouped ones.** -/
theorem groupedDigits?_eq_some_iff : groupedDigits? cs = some ds ↔ Grouped cs ds := by
  constructor
  · intro h
    fun_induction groupedDigits? cs generalizing ds with
    | case1 => cases h
    | case2 c =>
      obtain ⟨d, hd, rfl⟩ := Option.map_eq_some_iff.mp h
      exact .last hd
    | case3 c rest ih =>
      obtain ⟨d, hd, h⟩ := Option.bind_eq_some_iff.mp h
      obtain ⟨ds', hrest, h⟩ := Option.bind_eq_some_iff.mp h
      cases h
      exact .underscore hd (ih hrest)
    | case4 c rest _ _ ih =>
      obtain ⟨d, hd, h⟩ := Option.bind_eq_some_iff.mp h
      obtain ⟨ds', hrest, h⟩ := Option.bind_eq_some_iff.mp h
      cases h
      exact .digit hd (ih hrest)
  · intro h
    induction h with
    | last h => rw [groupedDigits?, h, Option.map_some]
    | digit h rest ih =>
      obtain ⟨c', d', cs', rfl, hc'⟩ := rest.exists_cons
      have hunderscore := (digitValue?_plain hc').2.2.2
      rw [groupedDigits?, h, ih]
      · rfl
      · exact List.cons_ne_nil _ _
      · rintro _ ⟨⟩
        exact hunderscore rfl
    | underscore h rest ih =>
      rw [groupedDigits?, h, ih]
      rfl

theorem readNat?_eq_some_iff {n : Nat} :
    readNat? cs = some n ↔ ∃ ds, Grouped cs ds ∧ ds.length ≤ digitLimit ∧ ofDigits 10 ds = n := by
  simp only [readNat?, Option.bind_eq_bind, Option.bind_eq_some_iff, groupedDigits?_eq_some_iff,
    Option.ite_none_right_eq_some, Option.some.injEq]

/-! ## 2. Blanks at the ends -/

section Trim

variable {drop : Char → Bool} {before core after : List Char}

theorem dropWhile_append_of_head (hbefore : ∀ c ∈ before, drop c = true)
    (hhead : ∀ c ∈ core.head?, drop c = false) : (before ++ core).dropWhile drop = core := by
  rw [List.dropWhile_append_of_pos hbefore]
  cases core with
  | nil => rfl
  | cons c core => exact List.dropWhile_cons_of_neg (by simp [hhead c rfl])

/-- **Without the characters to be dropped** at both ends, a text that begins and ends with another
    character is left. -/
theorem trimBy_append (hbefore : ∀ c ∈ before, drop c = true) (hafter : ∀ c ∈ after, drop c = true)
    (hne : core ≠ []) (hfirst : ∀ c ∈ core.head?, drop c = false)
    (hlast : ∀ c ∈ core.getLast?, drop c = false) :
    Text.trimBy drop (before ++ core ++ after) = core := by
  have hhead : ∀ c ∈ (core ++ after).head?, drop c = false := by
    rwa [List.head?_append_of_ne_nil _ hne]
  have hafter' : ∀ c ∈ after.reverse, drop c = true := fun c hc => hafter c (List.mem_reverse.mp hc)
  rw [Text.trimBy, List.append_assoc, dropWhile_append_of_head hbefore hhead, List.reverse_append,
    dropWhile_append_of_head hafter' (by rwa [List.head?_reverse]), List.reverse_reverse]

/-- Only characters to be dropped are taken away, at both ends. -/
theorem exists_trimBy (drop : Char → Bool) (cs : List Char) :
    ∃ before after, cs = before ++ Text.trimBy drop cs ++ after ∧
      (∀ c ∈ before, drop c = true) ∧ ∀ c ∈ after, drop c = true := by
  have hsplit (ds : List Char) : ds.takeWhile drop ++ ds.dropWhile drop = ds :=
    List.takeWhile_append_dropWhile
  refine ⟨cs.takeWhile drop, ((cs.dropWhile drop).reverse.takeWhile drop).reverse, ?_,
    fun c hc => List.mem_takeWhile_imp hc,
    fun c hc => List.mem_takeWhile_imp (List.mem_reverse.mp hc)⟩
  rw [Text.trimBy, List.append_assoc, ← List.reverse_append, hsplit, List.reverse_reverse, hsplit]

end Trim

/-! ## 3. Whole numbers -/

/-- **A number with a sign or none.** There are at most as many digits as are read. -/
inductive Signed : List Char → Int → Prop
  | plain {cs : List Char} {ds : List Nat} (h : Grouped cs ds) (hlength : ds.length ≤ digitLimit) :
      Signed cs (ofDigits 10 ds)
  | plus {cs : List Char} {ds : List Nat} (h : Grouped cs ds) (hlength : ds.length ≤ digitLimit) :
      Signed ('+' :: cs) (ofDigits 10 ds)
  | minus {cs : List Char} {ds : List Nat} (h : Grouped cs ds) (hlength : ds.length ≤ digitLimit) :
      Signed ('-' :: cs) (-ofDigits 10 ds)

/-- **A text writes a number**: with a sign or none, and with blanks around it. -/
def Writes (cs : List Char) (n : Int) : Prop :=
  ∃ before core after, cs = before ++ core ++ after ∧ (∀ c ∈ before, isOuterBlank c = true) ∧
    (∀ c ∈ after, isOuterBlank c = true) ∧ Signed core n

/-- A number begins and ends with no blank. -/
theorem Signed.ends (h : Signed cs n) :
    cs ≠ [] ∧ (∀ c ∈ cs.head?, isOuterBlank c = false) ∧
      ∀ c ∈ cs.getLast?, isOuterBlank c = false := by
  have hlast {digits : List Char} {ds : List Nat} (h : Grouped digits ds) (sign : List Char) :
      ∀ c ∈ (sign ++ digits).getLast?, isOuterBlank c = false := by
    obtain ⟨rest, c, d, rfl, hc⟩ := h.exists_concat
    rw [← List.append_assoc, List.getLast?_concat]
    rintro _ ⟨⟩
    exact (digitValue?_plain hc).1
  cases h with
  | plain h =>
    have hend := hlast h []
    obtain ⟨c, d, rest, rfl, hc⟩ := h.exists_cons
    refine ⟨List.cons_ne_nil _ _, ?_, hend⟩
    rintro _ ⟨⟩
    exact (digitValue?_plain hc).1
  | plus h =>
    refine ⟨List.cons_ne_nil _ _, ?_, hlast h ['+']⟩
    rintro _ ⟨⟩
    decide
  | minus h =>
    refine ⟨List.cons_ne_nil _ _, ?_, hlast h ['-']⟩
    rintro _ ⟨⟩
    decide

/-- What is left of a text without its blanks is read as a number with a sign or none. -/
theorem readInt?_eq_some_iff_signed {core : List Char}
    (hcore : Text.trimBy isOuterBlank cs = core) : readInt? cs = some n ↔ Signed core n := by
  rw [readInt?, hcore]
  constructor
  · intro h
    split at h
    all_goals
      obtain ⟨k, hk, rfl⟩ := Option.map_eq_some_iff.mp h
      obtain ⟨ds, hds, hlength, rfl⟩ := readNat?_eq_some_iff.mp hk
    · exact .plus hds hlength
    · exact .minus hds hlength
    · exact .plain hds hlength
  · intro h
    cases h with
    | plain hds hlength =>
      have hread := readNat?_eq_some_iff.mpr ⟨_, hds, hlength, rfl⟩
      obtain ⟨c, d, rest, rfl, hc⟩ := hds.exists_cons
      have hplain := digitValue?_plain hc
      split
      · rename_i heq
        exact absurd (List.cons.inj heq).1 hplain.2.1
      · rename_i heq
        exact absurd (List.cons.inj heq).1 hplain.2.2.1
      · rw [hread]
        rfl
    | plus hds hlength =>
      have hread := readNat?_eq_some_iff.mpr ⟨_, hds, hlength, rfl⟩
      exact congrArg (Option.map Int.ofNat) hread
    | minus hds hlength =>
      have hread := readNat?_eq_some_iff.mpr ⟨_, hds, hlength, rfl⟩
      exact congrArg (Option.map fun n => -Int.ofNat n) hread

/-- **A text is read as a number exactly if it writes the number.** -/
theorem readInt?_eq_some_iff : readInt? cs = some n ↔ Writes cs n := by
  constructor
  · intro h
    obtain ⟨before, after, hcs, hbefore, hafter⟩ := exists_trimBy isOuterBlank cs
    exact ⟨before, _, after, hcs, hbefore, hafter, (readInt?_eq_some_iff_signed rfl).mp h⟩
  · rintro ⟨before, core, after, rfl, hbefore, hafter, hcore⟩
    obtain ⟨hne, hfirst, hlast⟩ := hcore.ends
    exact (readInt?_eq_some_iff_signed (trimBy_append hbefore hafter hne hfirst hlast)).mpr hcore

end Numeral

end PeppolStatistics
