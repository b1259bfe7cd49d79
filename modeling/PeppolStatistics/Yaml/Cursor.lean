/-!
# Places in a YAML text

A `Cursor` is a place in a text: what is left of the text, and the line and column reached. The
column decides which block an entry belongs to, so every reader of a part of the text takes a
cursor and gives back the one behind that part. The file also holds the classes of characters that
all parts of the format share, and the rule by which line breaks inside a scalar are folded.
-/

namespace PeppolStatistics

namespace Yaml

/-! ## 1. Characters -/

/-- The character that stands for the end of the text; no text may hold it. -/
def endMark : Char := '\x00'

/-- Whether a character may stand in a text. -/
def isPrintable (c : Char) : Bool :=
  let n := c.toNat
  n == 9 || n == 10 || n == 13 || (0x20 ≤ n && n ≤ 0x7e) || n == 0x85 || (0xa0 ≤ n && n ≤ 0xfffd)
    || 0x10000 ≤ n

/-- Whether a character ends a line. -/
def isBreak (c : Char) : Bool := c == '\n' || c == '\u0085' || c == '\u2028' || c == '\u2029'

/-- Whether a character ends a line or the text. -/
def endsLine (c : Char) : Bool := c == endMark || isBreak c

/-- Whether a character is a space or ends a line or the text. -/
def isSpaceOrEnd (c : Char) : Bool := c == ' ' || endsLine c

/-- Whether a character ends a word: a blank, the end of a line, the end of the text. -/
def endsWord (c : Char) : Bool := c == '\t' || isSpaceOrEnd c

/-- Whether a character is a space or a tab. -/
def isSpaceOrTab (c : Char) : Bool := c == ' ' || c == '\t'

/-- Whether a character may stand in the name of an anchor or a directive. -/
def isNameChar (c : Char) : Bool :=
  ('0' ≤ c && c ≤ '9') || ('A' ≤ c && c ≤ 'Z') || ('a' ≤ c && c ≤ 'z') || c == '-' || c == '_'

/-- The text with every kind of carriage return made a line feed. -/
def normalBreaks : List Char → List Char
  | '\r' :: '\n' :: rest => '\n' :: normalBreaks rest
  | '\r' :: rest => '\n' :: normalBreaks rest
  | c :: rest => c :: normalBreaks rest
  | [] => []

/-! ## 2. Cursors -/

/-- A place in a text: what is left of it, how many characters lie before, the line and the
    column, all counted from zero. -/
structure Cursor where
  rest : List Char
  index : Nat := 0
  line : Nat := 0
  column : Nat := 0

namespace Cursor

/-- The character a number of places ahead. -/
def ahead (c : Cursor) (k : Nat) : Char := c.rest.getD k endMark

/-- The next character. -/
def peek (c : Cursor) : Char := c.ahead 0

/-- The place behind the next character. A byte order mark takes no column. -/
def next (c : Cursor) : Cursor :=
  match c.rest with
  | [] => c
  | ch :: rest =>
    if isBreak ch then ⟨rest, c.index + 1, c.line + 1, 0⟩
    else ⟨rest, c.index + 1, c.line, if ch == '\ufeff' then c.column else c.column + 1⟩

/-- The place behind a number of characters. -/
def drop : Nat → Cursor → Cursor
  | 0, c => c
  | n + 1, c => drop n c.next

/-- The characters of a class from a place on, and the place behind them. -/
def span (p : Char → Bool) (c : Cursor) : List Char × Cursor :=
  let word := c.rest.takeWhile p
  (word, c.drop word.length)

/-- The place behind the characters of a class. -/
def skip (p : Char → Bool) (c : Cursor) : Cursor := (c.span p).2

/-- The place behind spaces, as long as they stand before a column. -/
def skipIndent (column : Nat) (c : Cursor) : Cursor :=
  c.drop (min (column - c.column) (c.rest.takeWhile (· == ' ')).length)

/-- The place behind a comment, if one begins here. -/
def skipComment (c : Cursor) : Cursor :=
  if c.peek == '#' then c.skip fun ch => !endsLine ch else c

/-- The line break at a place, as it counts in scalars, and the place behind it. The separators of
    lines and paragraphs stand for themselves, every other break is a line feed. -/
def lineBreak? (c : Cursor) : Option (Char × Cursor) :=
  let ch := c.peek
  if isBreak ch then some (if ch == '\n' || ch == '\u0085' then '\n' else ch, c.next) else none

/-- The place behind what is left of a line that may only hold a comment. -/
def restOfLine? (c : Cursor) : Option Cursor :=
  let c := (c.skip (· == ' ')).skipComment
  if endsLine c.peek then some ((c.lineBreak?.map (·.2)).getD c) else none

/-- Whether a mark that separates documents stands at a place: three hyphens or three dots that
    end a word. -/
def atSeparator (c : Cursor) : Bool :=
  let mark := c.rest.take 3
  (mark == ['-', '-', '-'] || mark == ['.', '.', '.']) && endsWord (c.ahead 3)

end Cursor

/-! ## 3. Folding -/

/-- What a line break inside a scalar counts as: a space if no blank line follows, otherwise the
    breaks of the blank lines. A separator of lines or paragraphs is kept. -/
def folded (first : Char) (blankLines : List Char) : List Char :=
  if first != '\n' then first :: blankLines
  else if blankLines.isEmpty then [' '] else blankLines

end Yaml

end PeppolStatistics
