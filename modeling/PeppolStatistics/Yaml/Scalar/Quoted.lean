import PeppolStatistics.Failure
import PeppolStatistics.Yaml.Cursor

/-!
# Quoted scalars

A scalar in single quotes writes a quote twice; one in double quotes knows escapes. In both the
lines are folded and the blanks at a line's end do not count.
-/

namespace PeppolStatistics

namespace Yaml

/-! ## 1. Escapes -/

/-- The character that a short escape stands for. -/
def shortEscape? : Char → Option Char
  | '0' => some '\x00'
  | 'a' => some '\x07'
  | 'b' => some '\x08'
  | 't' => some '\t'
  | '\t' => some '\t'
  | 'n' => some '\n'
  | 'v' => some '\x0b'
  | 'f' => some '\x0c'
  | 'r' => some '\r'
  | 'e' => some '\x1b'
  | ' ' => some ' '
  | '"' => some '"'
  | '\\' => some '\\'
  | '/' => some '/'
  | 'N' => some '\u0085'
  | '_' => some '\u00a0'
  | 'L' => some '\u2028'
  | 'P' => some '\u2029'
  | _ => none

/-- The number of hexadecimal digits behind a long escape. -/
def escapeLength? : Char → Option Nat
  | 'x' => some 2
  | 'u' => some 4
  | 'U' => some 8
  | _ => none

/-- The value of a hexadecimal digit. -/
def hexDigit? (c : Char) : Option Nat :=
  if '0' ≤ c ∧ c ≤ '9' then some (c.toNat - 48)
  else if 'a' ≤ c ∧ c ≤ 'f' then some (c.toNat - 87)
  else if 'A' ≤ c ∧ c ≤ 'F' then some (c.toNat - 55)
  else none

/-- The character with a code point. Half of a pair of surrogates is no character and counts as
    the replacement character. -/
def charOfCode (n : Nat) : Except Failure Char :=
  if 0x7fffffff < n then .error .overflow
  else if 0x10ffff < n then .error .codePointTooLarge
  else if n.isValidChar then .ok (Char.ofNat n)
  else .ok '\ufffd'

/-- The character of a long escape with some digits, and the place behind them. -/
def longEscape (digits : Nat) (c : Cursor) : Except Failure (Char × Cursor) :=
  let word := c.rest.take digits
  match word.mapM hexDigit? with
  | none => .error .markup
  | some ds =>
    if ds.length < digits then .error .markup
    else do
      let ch ← charOfCode (Numeral.ofDigits 16 ds)
      return (ch, c.drop digits)

/-! ## 2. Lines -/

/-- The blank lines from a place on, as their breaks. A mark between documents may not begin one
    of the lines. -/
def quotedBlankLines : Nat → Cursor → Except Failure (List Char × Cursor)
  | 0, _ => .error .markup
  | fuel + 1, c =>
    if c.atSeparator then .error .markup
    else
      let c := c.skip isSpaceOrTab
      match c.lineBreak? with
      | none => .ok ([], c)
      | some (ch, c) => do
        let (more, c) ← quotedBlankLines fuel c
        return (ch :: more, c)

/-- The blanks at a place, folded if a line ends. -/
def quotedBlanks (c : Cursor) : Except Failure (List Char × Cursor) :=
  let (blanks, c) := c.span isSpaceOrTab
  if c.peek == endMark then .error .markup
  else
    match c.lineBreak? with
    | none => .ok (blanks, c)
    | some (ch, c) => do
      let (more, c) ← quotedBlankLines (c.rest.length + 1) c
      return (folded ch more, c)

/-! ## 3. Scalars -/

/-- What follows a backslash in double quotes, and the place behind it. -/
def escape (c : Cursor) : Except Failure (List Char × Cursor) :=
  let ch := c.peek
  match shortEscape? ch, escapeLength? ch, c.lineBreak? with
  | some e, _, _ => .ok ([e], c.next)
  | none, some digits, _ => do
    let (e, c) ← longEscape digits c.next
    return ([e], c)
  | none, none, some (_, c) => quotedBlankLines (c.rest.length + 1) c
  | none, none, none => .error .markup

/-- The inside of a quoted scalar up to its closing quote, and the place behind that. -/
def quotedText (double : Bool) : Nat → Cursor → Except Failure (List Char × Cursor)
  | 0, _ => .error .markup
  | fuel + 1, c =>
    let ch := c.peek
    let quote := if double then '"' else '\''
    if !double && ch == quote && c.ahead 1 == quote then do
      let (more, c) ← quotedText double fuel (c.drop 2)
      return (quote :: more, c)
    else if ch == quote then .ok ([], c.next)
    else if double && ch == '\\' then do
      let (part, c) ← escape c.next
      let (more, c) ← quotedText double fuel c
      return (part ++ more, c)
    else if endsWord ch then do
      let (blanks, c) ← quotedBlanks c
      let (more, c) ← quotedText double fuel c
      return (blanks ++ more, c)
    else do
      let (more, c) ← quotedText double fuel c.next
      return (ch :: more, c)

/-- The quoted scalar whose opening quote stands at a place: its text and the place behind it. -/
def quotedScalar (double : Bool) (c : Cursor) : Except Failure (String × Cursor) := do
  let (text, c) ← quotedText double (c.rest.length + 1) c.next
  return (String.ofList text, c)

end Yaml

end PeppolStatistics
