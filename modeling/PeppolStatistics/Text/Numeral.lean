import PeppolStatistics.Text.Blank

/-!
# Whole numbers as text

How a whole number is read and written. Reading accepts blanks around the number, a sign, the
decimal digits of every script and single underscores between digits. A number of more than 4300
digits is refused, where it is read and where it is written in decimal (`isLong`). Numbers of a
fixed width are padded with zeros on the left.
-/

namespace PeppolStatistics

namespace Numeral

/-! ## 1. Digits -/

/-- The zeros of the decimal digit runs of Unicode 14; each run has ten consecutive digits. -/
def zeroDigits : List Nat :=
  [0x30, 0x660, 0x6f0, 0x7c0, 0x966, 0x9e6, 0xa66, 0xae6, 0xb66, 0xbe6, 0xc66, 0xce6, 0xd66, 0xde6,
   0xe50, 0xed0, 0xf20, 0x1040, 0x1090, 0x17e0, 0x1810, 0x1946, 0x19d0, 0x1a80, 0x1a90, 0x1b50,
   0x1bb0, 0x1c40, 0x1c50, 0xa620, 0xa8d0, 0xa900, 0xa9d0, 0xa9f0, 0xaa50, 0xabf0, 0xff10, 0x104a0,
   0x10d30, 0x11066, 0x110f0, 0x11136, 0x111d0, 0x112f0, 0x11450, 0x114d0, 0x11650, 0x116c0,
   0x11730, 0x118e0, 0x11950, 0x11c50, 0x11d50, 0x11da0, 0x16a60, 0x16ac0, 0x16b50, 0x1d7ce,
   0x1d7d8, 0x1d7e2, 0x1d7ec, 0x1d7f6, 0x1e140, 0x1e2f0, 0x1e950, 0x1fbf0]

/-- The value of a decimal digit of any script. -/
def digitValue? (c : Char) : Option Nat :=
  (zeroDigits.find? fun z => z ≤ c.toNat && c.toNat ≤ z + 9).map (c.toNat - ·)

/-- The value of an ASCII decimal digit. -/
def asciiDigit? (c : Char) : Option Nat :=
  if '0' ≤ c ∧ c ≤ '9' then some (c.toNat - 48) else none

/-- The number that a list of digit values denotes in a base. -/
def ofDigits (base : Nat) (ds : List Nat) : Nat := ds.foldl (fun acc d => acc * base + d) 0

/-! ## 2. Reading -/

/-- Digits with single underscores between them: the digit values, or nothing if the text is
    empty, holds another character, or has an underscore that does not stand between two digits. -/
def groupedDigits? : List Char → Option (List Nat)
  | [] => none
  | [c] => (digitValue? c).map ([·])
  | c :: '_' :: rest => do return (← digitValue? c) :: (← groupedDigits? rest)
  | c :: rest => do return (← digitValue? c) :: (← groupedDigits? rest)

/-- The blanks that may surround a number: all blanks but the information separators. -/
def isOuterBlank (c : Char) : Bool := isBlank c && !(28 ≤ c.toNat && c.toNat ≤ 31)

/-- The greatest number of decimal digits that a text may have. -/
def digitLimit : Nat := 4300

/-- A whole number without sign. -/
def readNat? (cs : List Char) : Option Nat := do
  let ds ← groupedDigits? cs
  if ds.length ≤ digitLimit then some (ofDigits 10 ds) else none

/-- A whole number with an optional sign and blanks around it. -/
def readInt? (cs : List Char) : Option Int :=
  match Text.trimBy isOuterBlank cs with
  | '+' :: rest => (readNat? rest).map Int.ofNat
  | '-' :: rest => (readNat? rest).map fun n => -Int.ofNat n
  | rest => (readNat? rest).map Int.ofNat

example : readInt? [' ', '-', '1', '_', '2'] = some (-12) := by decide
example : readInt? ['1', '_', '_', '2'] = none := by decide

/-! ## 3. Writing -/

/-- Whether a number has more decimal digits than a text may have. -/
def isLong (n : Int) : Bool := digitLimit < (Nat.toDigits 10 n.natAbs).length

/-- The decimal digit of a value below ten. -/
def digitChar (d : Nat) : Char := Char.ofNat (48 + d % 10)

/-- The last `width` decimal digits of a number. -/
def fixedDigits : Nat → Nat → List Char
  | 0, _ => []
  | width + 1, n => fixedDigits width (n / 10) ++ [digitChar n]

@[simp] theorem length_fixedDigits (width n : Nat) : (fixedDigits width n).length = width := by
  induction width generalizing n with
  | zero => rfl
  | succ w ih => simp [fixedDigits, ih]

/-- A number in lower-case hexadecimal, with zeros on the left up to a width. -/
def paddedHex (width n : Nat) : List Char :=
  let ds := Nat.toDigits 16 n
  List.replicate (width - ds.length) '0' ++ ds

/-- A number in decimal, with zeros on the left up to a width. -/
def padded (width n : Nat) : List Char :=
  let ds := Nat.toDigits 10 n
  List.replicate (width - ds.length) '0' ++ ds

end Numeral

end PeppolStatistics
