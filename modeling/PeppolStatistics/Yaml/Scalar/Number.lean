import PeppolStatistics.Failure
import PeppolStatistics.Number.Binary64
import PeppolStatistics.Yaml.Tag

/-!
# Numbers in scalars

What a scalar with the form of a number denotes. Underscores do not count. The forms themselves
are those of `isWholeNumber` and `isRealNumber`.
-/

namespace PeppolStatistics

namespace Yaml

/-- The value of a digit, decimal or hexadecimal; other characters count as zero. -/
def digitValue (c : Char) : Nat :=
  if c ≤ '9' then c.toNat - 48 else if c ≤ 'F' then c.toNat - 55 else c.toNat - 87

/-- The number that some digits denote in a base. -/
def numberOf (base : Nat) (ds : List Char) : Nat := Numeral.ofDigits base (ds.map digitValue)

/-- The number that decimal digits denote, of which there may be only so many. -/
def decimalNumber (ds : List Char) : Except Failure Nat :=
  if Numeral.digitLimit < ds.length then .error (.tooManyDigits ds.length)
  else .ok (numberOf 10 ds)

/-- The number that the digits behind the mark of a base denote. -/
def markedNumber (base : Nat) (ds : List Char) : Except Failure Nat :=
  if ds.isEmpty then .error (.notANumber base (quoted "")) else .ok (numberOf base ds)

/-- The whole number that a text denotes. -/
def wholeNumber (cs : List Char) : Except Failure Int := do
  let magnitude ← match (unsigned cs).filter (· != '_') with
    | '0' :: 'b' :: ds => markedNumber 2 ds
    | '0' :: 'x' :: ds => markedNumber 16 ds
    | '0' :: ds => pure (numberOf 8 ds)
    | body => do
      let places ← (colonParts body).mapM decimalNumber
      pure (Numeral.ofDigits 60 places)
  return if cs.head? == some '-' then -Int.ofNat magnitude else Int.ofNat magnitude

/-- The exponent in front of which a number stands, zero if there is none. -/
def exponentOf : List Char → Int
  | _ :: '-' :: ds => -Int.ofNat (numberOf 10 ds)
  | _ :: _ :: ds => Int.ofNat (numberOf 10 ds)
  | _ => 0

/-- The number that digits with a point and an exponent denote. -/
def decimalReal (cs : List Char) : Binary64 :=
  let (mantissa, tail) := cs.span fun c => isDigit c || c == '.'
  let (whole, rest) := mantissa.span (· != '.')
  let places := rest.drop 1
  .ofDecimal false (numberOf 10 (whole ++ places)) (exponentOf tail - places.length)

/-- The sum of the places of a number to the base sixty, the last place first. -/
def sexagesimalReal : Nat → List Binary64 → Binary64 → Binary64
  | _, [], sum => sum
  | base, x :: rest, sum =>
    sexagesimalReal (base * 60) rest (sum.add (x.mul (.ofRational base 1)))

/-- The number that a text with a point denotes. -/
def realNumber (cs : List Char) : Binary64 :=
  let body := (unsigned cs).filter (· != '_')
  let magnitude : Binary64 :=
    match body with
    | '.' :: 'i' :: _ => .infinite false
    | '.' :: 'I' :: _ => .infinite false
    | '.' :: 'n' :: _ => .nan
    | '.' :: 'N' :: _ => .nan
    | _ =>
      match colonParts body with
      | [single] => decimalReal single
      | places => sexagesimalReal 1 (places.reverse.map decimalReal) (.ofDecimal false 0 0)
  if cs.head? == some '-' then magnitude.neg else magnitude

end Yaml

end PeppolStatistics
