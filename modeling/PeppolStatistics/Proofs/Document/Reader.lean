import PeppolStatistics.Document.Json

/-!
# Reading JSON text

A reader of JSON text in the grammar of RFC 8259, independent of the writer: it accepts blanks
between the parts, every escape, upper-case and lower-case hexadecimal digits, fractions and
exponents. The entries of an object are kept as they stand, also several with one name. Every
function takes characters from the beginning of a list and gives back those left over; the number
`n` bounds the steps, and a text never needs more steps than it has characters.
-/

namespace PeppolStatistics

namespace Json

/-! ## 1. Parts of a text -/

/-- The blanks that may stand between the parts. -/
def isSpace (c : Char) : Bool := c == ' ' || c == '\t' || c == '\n' || c == '\r'

/-- The characters behind the blanks. -/
def skipSpaces (cs : List Char) : List Char := cs.dropWhile isSpace

/-- The value of a hexadecimal digit. -/
def hexDigit? (c : Char) : Option Nat :=
  if '0' ≤ c ∧ c ≤ '9' then some (c.toNat - 48)
  else if 'a' ≤ c ∧ c ≤ 'f' then some (c.toNat - 87)
  else if 'A' ≤ c ∧ c ≤ 'F' then some (c.toNat - 55)
  else none

/-- A unit of sixteen bits: four hexadecimal digits. -/
def readUnit : List Char → Option (Nat × List Char)
  | a :: b :: c :: d :: rest => do
    let ds ← [a, b, c, d].mapM hexDigit?
    return (Numeral.ofDigits 16 ds, rest)
  | _ => none

/-- Whether a unit is the first one of a character beyond the basic plane. -/
def isHigh (n : Nat) : Bool := 0xd800 ≤ n && n < 0xdc00

/-- Whether a unit is the second one of a character beyond the basic plane. -/
def isLow (n : Nat) : Bool := 0xdc00 ≤ n && n < 0xe000

/-- The character of one unit or of two; no text holds a unit of such a pair alone. -/
def readUnits (cs : List Char) : Option (Char × List Char) := do
  let (n, rest) ← readUnit cs
  if isHigh n then
    match rest with
    | '\\' :: 'u' :: rest =>
      let (m, rest) ← readUnit rest
      if isLow m then
        return (Char.ofNat (0x10000 + (n - 0xd800) * 0x400 + (m - 0xdc00)), rest)
      else none
    | _ => none
  else if isLow n then none
  else return (Char.ofNat n, rest)

/-- The character that a letter behind a backslash stands for. -/
def shortEscape? : Char → Option Char
  | '"' => some '"'
  | '\\' => some '\\'
  | '/' => some '/'
  | 'b' => some '\x08'
  | 'f' => some '\x0c'
  | 'n' => some '\n'
  | 'r' => some '\r'
  | 't' => some '\t'
  | _ => none

/-- One character of a text, escaped or not. -/
def readChar : List Char → Option (Char × List Char)
  | '\\' :: e :: rest =>
    if e = 'u' then readUnits rest else (shortEscape? e).map fun c => (c, rest)
  | c :: rest => if c = '"' ∨ c = '\\' ∨ c.toNat < 32 then none else some (c, rest)
  | [] => none

/-- The characters up to the next quote. -/
def readText : Nat → List Char → Option (List Char × List Char)
  | 0, _ => none
  | n + 1, cs =>
    if cs.head? = some '"' then some ([], cs.tail)
    else do
      let (c, rest) ← readChar cs
      let (text, rest) ← readText n rest
      return (c :: text, rest)

/-! ## 2. Numbers -/

/-- The digits at the beginning, and what is left. -/
def spanDigits (cs : List Char) : List Char × List Char :=
  (cs.takeWhile Char.isDigit, cs.dropWhile Char.isDigit)

/-- The digits behind the point, if there is one. -/
def readPlaces (cs : List Char) : Option (List Char × List Char) :=
  if cs.head? = some '.' then
    if (spanDigits cs.tail).1 = [] then none else some (spanDigits cs.tail)
  else some ([], cs)

/-- The exponent, if there is one. -/
def readExponent (cs : List Char) : Option (Option Int × List Char) :=
  if cs.head? = some 'e' ∨ cs.head? = some 'E' then
    let signed := cs.tail
    let digits := if signed.head? = some '-' ∨ signed.head? = some '+' then signed.tail else signed
    let (ds, rest) := spanDigits digits
    let m : Int := Nat.ofDigitChars 10 ds 0
    if ds = [] then none else some (some (if signed.head? = some '-' then -m else m), rest)
  else some (none, cs)

/-- A number behind its sign: whole if it has neither a point nor an exponent. A zero stands before
    other digits only behind the point. -/
def readMagnitude (negative : Bool) (cs : List Char) : Option (Document × List Char) := do
  let (whole, rest) := spanDigits cs
  if whole = [] ∨ (whole.head? = some '0' ∧ whole ≠ ['0']) then none
  let (places, rest) ← readPlaces rest
  let (exponent, rest) ← readExponent rest
  if places = [] ∧ exponent = none then
    let n : Int := Nat.ofDigitChars 10 whole 0
    return (.int (if negative then -n else n), rest)
  else
    let m := Nat.ofDigitChars 10 (whole ++ places) 0
    return (.real (.ofDecimal negative m (exponent.getD 0 - places.length)), rest)

/-- A number. -/
def readNumber (cs : List Char) : Option (Document × List Char) :=
  if cs.head? = some '-' then readMagnitude true cs.tail else readMagnitude false cs

/-! ## 3. Values -/

/-- The value that a word stands for, if it stands at the beginning. -/
def readWord (word : String) (d : Document) (cs : List Char) : Option (Document × List Char) :=
  if word.toList.isPrefixOf cs then some (d, cs.drop word.length) else none

mutual

/-- A value. -/
def readValue : Nat → List Char → Option (Document × List Char)
  | 0, _ => none
  | n + 1, cs =>
    match skipSpaces cs with
    | [] => none
    | c :: rest =>
      if c = '"' then do
        let (text, rest) ← readText n rest
        return (.text (String.ofList text), rest)
      else if c = '[' then
        if (skipSpaces rest).head? = some ']' then some (.list [], (skipSpaces rest).tail)
        else do
          let (d, rest) ← readValue n rest
          let (ds, rest) ← readTail n rest
          return (.list (d :: ds), rest)
      else if c = '\x7b' then
        if (skipSpaces rest).head? = some '\x7d' then some (.map [], (skipSpaces rest).tail)
        else do
          let (e, rest) ← readEntry n rest
          let (es, rest) ← readEntries n rest
          return (.map (e :: es), rest)
      else if c = 'n' then readWord "null" .null (c :: rest)
      else if c = 't' then readWord "true" (.bool true) (c :: rest)
      else if c = 'f' then readWord "false" (.bool false) (c :: rest)
      else readNumber (c :: rest)

/-- The further elements of a list, up to its end. -/
def readTail : Nat → List Char → Option (List Document × List Char)
  | 0, _ => none
  | n + 1, cs =>
    match skipSpaces cs with
    | [] => none
    | c :: rest =>
      if c = ']' then some ([], rest)
      else if c = ',' then do
        let (d, rest) ← readValue n rest
        let (ds, rest) ← readTail n rest
        return (d :: ds, rest)
      else none

/-- A name with its value. -/
def readEntry : Nat → List Char → Option ((String × Document) × List Char)
  | 0, _ => none
  | n + 1, cs =>
    if (skipSpaces cs).head? = some '"' then do
      let (name, rest) ← readText n (skipSpaces cs).tail
      if (skipSpaces rest).head? = some ':' then
        let (d, rest) ← readValue n (skipSpaces rest).tail
        return ((String.ofList name, d), rest)
      else none
    else none

/-- The further entries of an object, up to its end. -/
def readEntries : Nat → List Char → Option (List (String × Document) × List Char)
  | 0, _ => none
  | n + 1, cs =>
    match skipSpaces cs with
    | [] => none
    | c :: rest =>
      if c = '\x7d' then some ([], rest)
      else if c = ',' then do
        let (e, rest) ← readEntry n rest
        let (es, rest) ← readEntries n rest
        return (e :: es, rest)
      else none

end

/-- The document that a text denotes, if it is JSON text. -/
def decode (s : String) : Option Document :=
  match readValue (s.toList.length + 1) s.toList with
  | some (d, rest) => if skipSpaces rest = [] then some d else none
  | none => none

example : decode " [ -20,\t\"\\/\\ud83D\\ude00\" , null]"
    = some (.list [.int (-20), .text "/😀", .null]) := by cbv
example : decode "[1,]" = none := by cbv

end Json

end PeppolStatistics
