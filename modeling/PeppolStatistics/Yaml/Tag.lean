/-!
# Tags

The tag of a node says what its content means. A plain scalar without a tag gets one from its
text: part 2 gives the forms of truth values, numbers and timestamps, part 3 the choice between
them. A text of none of these forms is just a text.
-/

namespace PeppolStatistics

namespace Yaml

/-! ## 1. Tags -/

/-- What the content of a node means. -/
inductive Tag where
  | null
  | bool
  | int
  | float
  | timestamp
  | text
  /-- The key whose value is merged into its mapping. -/
  | merge
  /-- The key for the default value of a mapping. -/
  | default
  | sequence
  | mapping
  | unknown
deriving DecidableEq, Repr

/-- The tag with a full name. -/
def Tag.ofName : String → Tag
  | "tag:yaml.org,2002:null" => .null
  | "tag:yaml.org,2002:bool" => .bool
  | "tag:yaml.org,2002:int" => .int
  | "tag:yaml.org,2002:float" => .float
  | "tag:yaml.org,2002:timestamp" => .timestamp
  | "tag:yaml.org,2002:str" => .text
  | "tag:yaml.org,2002:merge" => .merge
  | "tag:yaml.org,2002:value" => .default
  | "tag:yaml.org,2002:seq" => .sequence
  | "tag:yaml.org,2002:map" => .mapping
  | _ => .unknown

/-! ## 2. Forms of plain scalars -/

/-- A word in lower case, in capitals, or with a capital first letter. -/
def inThreeCases (word : String) : List String := [word, word.capitalize, word.toUpper]

/-- The truth value that a word stands for. -/
def truthValue? (s : String) : Option Bool :=
  if ["yes", "true", "on"].any fun w => (inThreeCases w).contains s then some true
  else if ["no", "false", "off"].any fun w => (inThreeCases w).contains s then some false
  else none

/-- Whether a word stands for nothing. -/
def isNullWord (s : String) : Bool := s == "" || s == "~" || (inThreeCases "null").contains s

/-- Whether a character is a digit below a base up to ten, or an underscore between digits. -/
def isDigitBelow (base : Nat) (c : Char) : Bool :=
  ('0' ≤ c && c.toNat < 48 + base) || c == '_'

/-- Whether a character is a decimal digit. -/
def isDigit (c : Char) : Bool := '0' ≤ c && c ≤ '9'

/-- Whether a character is a hexadecimal digit or an underscore. -/
def isHexDigit (c : Char) : Bool :=
  isDigitBelow 10 c || ('a' ≤ c && c ≤ 'f') || ('A' ≤ c && c ≤ 'F')

/-- What is left behind a sign. -/
def unsigned : List Char → List Char
  | '+' :: rest => rest
  | '-' :: rest => rest
  | cs => cs

/-- Whether a text is a place of a number to the base sixty: one digit, or two of which the first
    is below six. -/
def isSixtieth : List Char → Bool
  | [d] => isDigit d
  | [t, d] => '0' ≤ t && t ≤ '5' && isDigit d
  | _ => false

/-- The parts of a text between its colons. -/
def colonParts : List Char → List (List Char)
  | [] => [[]]
  | ':' :: rest => [] :: colonParts rest
  | c :: rest =>
    match colonParts rest with
    | part :: parts => (c :: part) :: parts
    | [] => [[c]]

/-- Whether a text is a whole number: binary behind `0b`, hexadecimal behind `0x`, octal behind
    another zero, otherwise decimal or to the base sixty. -/
def isWholeNumber (cs : List Char) : Bool :=
  match unsigned cs with
  | '0' :: 'b' :: ds => !ds.isEmpty && ds.all (isDigitBelow 2)
  | '0' :: 'x' :: ds => !ds.isEmpty && ds.all isHexDigit
  | '0' :: ds => ds.all (isDigitBelow 8)
  | body =>
    match colonParts body with
    | (d :: ds) :: sixtieths => isDigit d && ds.all (isDigitBelow 10) && sixtieths.all isSixtieth
    | _ => false

/-- Whether a text is empty or an exponent, whose sign must be written. -/
def isExponent : List Char → Bool
  | [] => true
  | e :: sign :: ds =>
    (e == 'e' || e == 'E') && (sign == '+' || sign == '-') && !ds.isEmpty && ds.all isDigit
  | _ => false

/-- Whether a text is a number with a point. Before the point stand digits, or parts to the base
    sixty, which then have no exponent; without them the number has no sign. -/
def isRealNumber (cs : List Char) : Bool :=
  match (unsigned cs).span (· != '.') with
  | ([], '.' :: rest) =>
    let signed := (unsigned cs).length != cs.length
    let word := String.ofList rest
    if (inThreeCases "inf").contains word then true
    else if signed then false
    else ["nan", "NaN", "NAN"].contains word || (match rest with
      | d :: rest => isDigit d && isExponent (rest.dropWhile (isDigitBelow 10))
      | [] => false)
  | (whole, '.' :: rest) =>
    match colonParts whole with
    | (d :: ds) :: sixtieths =>
      let tail := rest.dropWhile (isDigitBelow 10)
      isDigit d && ds.all (isDigitBelow 10) && sixtieths.all isSixtieth
        && (if sixtieths.isEmpty then isExponent tail else tail.isEmpty)
    | _ => false
  | _ => false

/-! ## 3. The tag of a plain scalar -/

/-- The tag of a plain scalar that is no timestamp. -/
def Tag.ofPlain (s : String) : Tag :=
  let cs := s.toList
  if (truthValue? s).isSome then .bool
  else if isRealNumber cs then .float
  else if isWholeNumber cs then .int
  else if s == "<<" then .merge
  else if isNullWord s then .null
  else if s == "=" then .default
  else .text

example : Tag.ofPlain "1_000" = .int := by decide +kernel
example : Tag.ofPlain "089" = .text := by decide +kernel
example : Tag.ofPlain "1e3" = .text := by decide +kernel

end Yaml

end PeppolStatistics
