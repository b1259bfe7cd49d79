import PeppolStatistics.Text.Numeral

/-!
# Binary floating point of 64 bits, exactly

Numbers with a fraction reach the settings file, the log lines and the message texts. They are
held exactly, as a sign with a magnitude `mantissa * 2 ^ exponent`, and every operation rounds its
exact result to the nearest such number, a tie to the even mantissa. Their text has the fewest
digits that read back as the same number.
-/

namespace PeppolStatistics

/-- A number of the format: a sign with a magnitude, an infinity, or no number. In a magnitude
    the mantissa lies below `2 ^ 53`, the exponent is at least `-1074`, and the mantissa reaches
    `2 ^ 52` unless the exponent is least. -/
inductive Binary64 where
  | finite (negative : Bool) (mantissa : Nat) (exponent : Int)
  | infinite (negative : Bool)
  | nan
deriving DecidableEq, Repr

namespace Binary64

/-! ## 1. Rounding -/

/-- The least exponent of a magnitude. -/
def minExponent : Int := -1074

/-- The greatest exponent of a magnitude. -/
def maxExponent : Int := 971

/-- The whole number nearest to a quotient; a tie goes to the even one. -/
def roundQuotient (num den : Nat) : Nat :=
  let q := num / den
  let r := num % den
  if 2 * r > den || (2 * r == den && q % 2 == 1) then q + 1 else q

/-- A quotient with its numerator or denominator scaled by a power of two, so that it is divided
    by `2 ^ e`. -/
def scaled (num den : Nat) (e : Int) : Nat × Nat :=
  if e < 0 then (num * Nat.pow 2 e.natAbs, den) else (num, den * Nat.pow 2 e.natAbs)

/-- The exponent at which a positive quotient has a mantissa of 53 bits, or the least one. -/
def exponentFor (num den : Nat) : Int :=
  let e := (num.log2 : Int) - (den.log2 : Int) - 53
  let s := scaled num den e
  max minExponent (if s.1 / s.2 < Nat.pow 2 53 then e else e + 1)

/-- The number nearest to `num / den` with the given sign. -/
def ofRatio (negative : Bool) (num den : Nat) : Binary64 :=
  if num = 0 then .finite negative 0 minExponent
  else
    let e := exponentFor num den
    let s := scaled num den e
    let m := roundQuotient s.1 s.2
    let (m, e) := if m = Nat.pow 2 53 then (Nat.pow 2 52, e + 1) else (m, e)
    if e > maxExponent then .infinite negative else .finite negative m e

/-- The number nearest to a whole number over a positive one. -/
def ofRational (num : Int) (den : Nat) : Binary64 := ofRatio (num < 0) num.natAbs den

/-- The number nearest to `m * 10 ^ e`. Beyond the power of ten 400 it is infinite, and below the
    power -400 it is zero, so that no such power need be computed. -/
def ofDecimal (negative : Bool) (m : Nat) (e : Int) : Binary64 :=
  let size : Int := (Nat.toDigits 10 m).length + e
  if m ≠ 0 ∧ 400 < size then .infinite negative
  else if m = 0 ∨ size < -400 then .finite negative 0 minExponent
  else if e < 0 then ofRatio negative m (Nat.pow 10 e.natAbs)
  else ofRatio negative (m * Nat.pow 10 e.natAbs) 1

/-- The exact value as a whole number over a positive one. -/
def toRational? : Binary64 → Option (Int × Nat)
  | .finite negative m e =>
    let s := scaled m 1 (-e)
    some (if negative then -Int.ofNat s.1 else Int.ofNat s.1, s.2)
  | _ => none

/-! ## 2. Arithmetic -/

/-- Negation. -/
def neg : Binary64 → Binary64
  | .finite s m e => .finite (!s) m e
  | .infinite s => .infinite (!s)
  | .nan => .nan

/-- The sum of two finite numbers, rounded; anything else counts as no number. -/
def add (x y : Binary64) : Binary64 :=
  match x.toRational?, y.toRational? with
  | some (a, b), some (c, d) => ofRational (a * d + c * b) (b * d)
  | _, _ => .nan

/-- The product of two finite numbers, rounded; anything else counts as no number. -/
def mul (x y : Binary64) : Binary64 :=
  match x.toRational?, y.toRational? with
  | some (a, b), some (c, d) => ofRational (a * c) (b * d)
  | _, _ => .nan

/-- Whether a number is zero, of either sign. -/
def isZero : Binary64 → Bool
  | .finite _ 0 _ => true
  | _ => false

/-- Numeric equality: the zeros agree and no number agrees with nothing. -/
def same (x y : Binary64) : Bool := (x.isZero && y.isZero) || (x == y && x != .nan)

/-- The whole number that a number is, if it has no fraction. -/
def toInt? (x : Binary64) : Option Int :=
  match x.toRational? with
  | some (n, d) => if n % d = 0 then some (n / d) else none
  | none => none

/-- The whole part, toward zero, and the rest. -/
def splitWhole? (x : Binary64) : Option (Int × Binary64) :=
  match x.toRational? with
  | some (n, d) => some (n.tdiv d, ofRational (n.tmod d) d)
  | none => none

/-- The nearest whole number; a tie goes to the even one. -/
def round? (x : Binary64) : Option Int :=
  match x.toRational? with
  | some (n, d) =>
    let r := Int.ofNat (roundQuotient n.natAbs d)
    some (if n < 0 then -r else r)
  | none => none

/-! ## 3. Shortest digits -/

/-- The interval of the reals that round to a magnitude, over the denominator of the answer:
    lower end, value, upper end, denominator. -/
def roundingInterval (m : Nat) (e : Int) : Nat × Nat × Nat × Nat :=
  let low := if m = Nat.pow 2 52 && e > minExponent then 4 * m - 1 else 4 * m - 2
  let s := scaled 1 1 (2 - e)
  (low * s.1, 4 * m * s.1, (4 * m + 2) * s.1, s.2)

/-- The number of steps by ten that bring a quotient below one up to at least one. -/
def leadingZeros : Nat → Nat → Nat → Nat
  | 0, _, _ => 0
  | fuel + 1, num, den => if den ≤ num then 0 else leadingZeros fuel (num * 10) den + 1

/-- The decimal magnitude of a positive quotient: the `k` with `10 ^ (k - 1) ≤ q < 10 ^ k`. -/
def decimalMagnitude (num den : Nat) : Int :=
  if den ≤ num then ((Nat.toDigits 10 (num / den)).length : Int)
  else 1 - (leadingZeros 400 num den : Int)

/-- The digits of a whole number of units on the decimal grid with `n` digits, if one of the two
    neighbours of the value lies in the interval; the nearer one if both do. -/
def gridPoint? (closed : Bool) (low v high den : Nat) (k : Int) (n : Nat) : Option Nat :=
  -- the unit is 10 ^ (k - n); everything is divided by it
  let up : Int := (n : Int) - k
  let by10 (x : Nat) : Nat := if up < 0 then x else x * Nat.pow 10 up.natAbs
  let d := if up < 0 then den * Nat.pow 10 up.natAbs else den
  let f := by10 v / d
  let inside (c : Nat) : Bool :=
    if closed then by10 low ≤ c * d && c * d ≤ by10 high
    else by10 low < c * d && c * d < by10 high
  let below := by10 v - f * d
  let above := (f + 1) * d - by10 v
  match inside f && f != 0, inside (f + 1) with
  | true, true => some (if below < above || (below == above && f % 2 == 0) then f else f + 1)
  | true, false => some f
  | false, true => some (f + 1)
  | false, false => none

/-- The first grid that holds a point of the interval, searched from `n` digits on. -/
def shortestFrom (closed : Bool) (low v high den : Nat) (k : Int) : Nat → Nat → Nat × Int
  | 0, n => (v / den, (n : Int))
  | fuel + 1, n =>
    match gridPoint? closed low v high den k n with
    | some c => (c, k - n)
    | none => shortestFrom closed low v high den k fuel (n + 1)

/-- The shortest decimal that reads back as a positive magnitude: its digits as a number and the
    power of ten they are counted in. -/
def shortest (m : Nat) (e : Int) : Nat × Int :=
  let (low, v, high, den) := roundingInterval m e
  shortestFrom (m % 2 == 0) low v high den (decimalMagnitude v den) 17 1

/-! ## 4. Text -/

/-- The digits without the zeros at their end, which move into the power of ten. -/
def stripZeros : Nat → Nat → Int → Nat × Int
  | 0, c, p => (c, p)
  | fuel + 1, c, p => if c % 10 = 0 && c ≠ 0 then stripZeros fuel (c / 10) (p + 1) else (c, p)

/-- The text of `digits * 10 ^ p`: positional for exponents from `-4` to `15`, otherwise with an
    exponent of at least two digits. -/
def decimalText (c : Nat) (p : Int) : String :=
  let (c, p) := stripZeros 400 c p
  let ds := Nat.toDigits 10 c
  let point : Int := ds.length + p
  if point - 1 < -4 || 16 ≤ point - 1 then
    let x := point - 1
    let mantissa := match ds with
      | [] => []
      | [d] => [d]
      | d :: rest => d :: '.' :: rest
    String.ofList (mantissa ++ ['e', if x < 0 then '-' else '+'] ++ Numeral.padded 2 x.natAbs)
  else if point ≤ 0 then
    String.ofList ('0' :: '.' :: List.replicate point.natAbs '0' ++ ds)
  else if ds.length ≤ point.toNat then
    String.ofList (ds ++ List.replicate (point.toNat - ds.length) '0' ++ ['.', '0'])
  else
    String.ofList (ds.take point.toNat ++ '.' :: ds.drop point.toNat)

/-- The text of a number: the fewest digits that read back. -/
def text : Binary64 → String
  | .nan => "nan"
  | .infinite negative => if negative then "-inf" else "inf"
  | .finite negative m e =>
    let body := if m = 0 then "0.0" else
      let (c, p) := shortest m e
      decimalText c p
    if negative then "-" ++ body else body

end Binary64

end PeppolStatistics
