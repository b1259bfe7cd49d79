/-!
# Blank characters

A field of an item or of a report counts as filled only if it holds a character that is not blank.
This file fixes which characters are blank (the white space of Unicode together with the four
information separators), the test `hasText` built on it, and the removal of blanks at both ends.
-/

namespace PeppolStatistics

/-! ## 1. The class -/

/-- The blank characters: tabs and line ends, the information separators U+001C to U+001F, the
    spaces of Unicode and its line and paragraph separators. -/
def isBlank (c : Char) : Bool :=
  let n := c.toNat
  (9 ≤ n && n ≤ 13) || (28 ≤ n && n ≤ 32) || n == 0x85 || n == 0xa0 || n == 0x1680
    || (0x2000 ≤ n && n ≤ 0x200a) || n == 0x2028 || n == 0x2029 || n == 0x202f || n == 0x205f
    || n == 0x3000

example : isBlank ' ' = true ∧ isBlank '\t' = true ∧ isBlank '\u200b' = false := by decide

/-! ## 2. Texts -/

namespace Text

/-- Whether a text holds a character that is not blank. -/
def hasText (s : String) : Bool := s.toList.any fun c => !isBlank c

/-- The text without the characters of a class at its two ends. -/
def trimBy (drop : Char → Bool) (cs : List Char) : List Char :=
  ((cs.dropWhile drop).reverse.dropWhile drop).reverse

@[simp] theorem hasText_empty : hasText "" = false := rfl

theorem hasText_ofList (cs : List Char) :
    hasText (String.ofList cs) = cs.any fun c => !isBlank c := by
  simp [hasText]

end Text

end PeppolStatistics
