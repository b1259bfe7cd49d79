import PeppolStatistics.Document.Basic

/-!
# Documents as JSON text

The written form uses ASCII characters only: other characters are escaped, those beyond the basic
plane as two units. A document is written on one line with blanks after commas and colons, or
over several lines with two blanks per level.
-/

namespace PeppolStatistics

namespace Json

/-! ## 1. Texts -/

/-- A unit of sixteen bits as an escape. -/
def unitEscape (n : Nat) : List Char := '\\' :: 'u' :: Numeral.paddedHex 4 n

/-- One character of a text. -/
def escape (c : Char) : List Char :=
  let n := c.toNat
  if c == '"' then ['\\', '"']
  else if c == '\\' then ['\\', '\\']
  else if c == '\n' then ['\\', 'n']
  else if c == '\r' then ['\\', 'r']
  else if c == '\t' then ['\\', 't']
  else if n == 8 then ['\\', 'b']
  else if n == 12 then ['\\', 'f']
  else if 32 ≤ n && n < 127 then [c]
  else if n < 0x10000 then unitEscape n
  else unitEscape (0xd800 + (n - 0x10000) / 0x400) ++ unitEscape (0xdc00 + (n - 0x10000) % 0x400)

/-- A text between quotes. -/
def encodeText (s : String) : List Char := '"' :: s.toList.flatMap escape ++ ['"']

/-- A number with a fraction; what is no finite number has a name. -/
def encodeReal : Binary64 → List Char
  | .nan => "NaN".toList
  | .infinite negative => (if negative then "-Infinity" else "Infinity").toList
  | x => x.text.toList

/-! ## 2. One line -/

mutual

/-- A document on one line. -/
def compact : Document → List Char
  | .null => "null".toList
  | .bool b => (if b then "true" else "false").toList
  | .int n => (toString n).toList
  | .real x => encodeReal x
  | .text s => encodeText s
  | .list [] => ['[', ']']
  | .list (d :: ds) => '[' :: compact d ++ compactTail ds ++ [']']
  | .map [] => ['\x7b', '\x7d']
  | .map ((k, d) :: es) =>
    '\x7b' :: encodeText k ++ ':' :: ' ' :: compact d ++ compactEntries es ++ ['\x7d']

/-- The further elements of a list. -/
def compactTail : List Document → List Char
  | [] => []
  | d :: ds => ',' :: ' ' :: compact d ++ compactTail ds

/-- The further entries of a map. -/
def compactEntries : List (String × Document) → List Char
  | [] => []
  | (k, d) :: es => ',' :: ' ' :: encodeText k ++ ':' :: ' ' :: compact d ++ compactEntries es

end

/-! ## 3. Several lines -/

/-- The start of a line at a level. -/
def newLine (level : Nat) : List Char := '\n' :: List.replicate (2 * level) ' '

mutual

/-- A document over several lines; `level` is the level of its own brackets. -/
def indented (level : Nat) : Document → List Char
  | .list (d :: ds) =>
    '[' :: newLine (level + 1) ++ indented (level + 1) d ++ indentedTail (level + 1) ds
      ++ newLine level ++ [']']
  | .map ((k, d) :: es) =>
    '\x7b' :: newLine (level + 1) ++ encodeText k ++ ':' :: ' ' :: indented (level + 1) d
      ++ indentedEntries (level + 1) es ++ newLine level ++ ['\x7d']
  | d => compact d

/-- The further elements of a list. -/
def indentedTail (level : Nat) : List Document → List Char
  | [] => []
  | d :: ds => ',' :: newLine level ++ indented level d ++ indentedTail level ds

/-- The further entries of a map. -/
def indentedEntries (level : Nat) : List (String × Document) → List Char
  | [] => []
  | (k, d) :: es =>
    ',' :: newLine level ++ encodeText k ++ ':' :: ' ' :: indented level d
      ++ indentedEntries level es

end

end Json

/-- A document as JSON text on one line. -/
def Document.json (d : Document) : String := String.ofList (Json.compact d)

/-- A document as JSON text over several lines. -/
def Document.prettyJson (d : Document) : String := String.ofList (Json.indented 0 d)

end PeppolStatistics
