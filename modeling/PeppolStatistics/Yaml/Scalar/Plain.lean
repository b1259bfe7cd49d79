import PeppolStatistics.Yaml.Cursor

/-!
# Plain scalars

A scalar without quotes runs up to a comment, a mark of the surrounding structure, or, in a block,
a line that is indented too little. Its lines are folded, and the blanks around each line do not
belong to it.
-/

namespace PeppolStatistics

namespace Yaml

/-! ## 1. Where a plain scalar begins and ends -/

/-- The characters that mean something at the start of a word. -/
def indicators : List Char :=
  ['-', '?', ':', ',', '[', ']', '{', '}', '#', '&', '*', '!', '|', '>', '\'', '"', '%', '@', '\x60']

/-- Whether a plain scalar begins at a place. A hyphen may begin one before a character that does
    not end a word, and outside flow collections so may a question mark and a colon. -/
def startsPlain (inFlow : Bool) (c : Cursor) : Bool :=
  let ch := c.peek
  !(endsWord ch || indicators.contains ch)
    || (!endsWord (c.ahead 1) && (ch == '-' || (!inFlow && (ch == '?' || ch == ':'))))

/-- The characters of a plain scalar up to the end of the word. -/
def plainWord (inFlow : Bool) : List Char → List Char
  | [] => []
  | ch :: rest =>
    let after := rest.headD endMark
    let ends := endsWord ch
      || (ch == ':' && (endsWord after || (inFlow && [',', '[', ']', '{', '}'].contains after)))
      || (inFlow && [',', '?', '[', ']', '{', '}'].contains ch)
    if ends then [] else ch :: plainWord inFlow rest

/-! ## 2. Lines -/

/-- The blank lines from a place on, as their breaks; nothing if a mark between documents begins
    one of the lines. -/
def plainBlankLines : Nat → Cursor → Option (List Char) × Cursor
  | 0, c => (some [], c)
  | fuel + 1, c =>
    let c := c.skip (· == ' ')
    match c.lineBreak? with
    | none => (some [], c)
    | some (ch, c) =>
      if c.atSeparator then (none, c)
      else
        let (more, c) := plainBlankLines fuel c
        (more.map (ch :: ·), c)

/-- The blanks behind a word of a plain scalar, folded; none if they end the scalar. Also says
    whether a line ended. -/
def plainBlanks (c : Cursor) : List Char × Bool × Cursor :=
  let (spaces, c) := c.span (· == ' ')
  match c.lineBreak? with
  | none => (spaces, false, c)
  | some (ch, c) =>
    if c.atSeparator then ([], true, c)
    else
      match plainBlankLines c.rest.length c with
      | (none, c) => ([], true, c)
      | (some more, c) => (folded ch more, true, c)

/-- The words of a plain scalar with the blanks between them. -/
def plainWords (inFlow : Bool) (indent : Nat) : Nat → Bool → Cursor → List Char × Bool × Cursor
  | 0, lineEnded, c => ([], lineEnded, c)
  | fuel + 1, lineEnded, c =>
    let word := plainWord inFlow c.rest
    if c.peek == '#' || word.isEmpty then ([], lineEnded, c)
    else
      let (blanks, lineEnded, c) := plainBlanks (c.drop word.length)
      if blanks.isEmpty || c.peek == '#' || (!inFlow && c.column < indent) then
        (word, lineEnded, c)
      else
        match plainWords inFlow indent fuel lineEnded c with
        | ([], lineEnded, c) => (word, lineEnded, c)
        | (more, lineEnded, c) => (word ++ blanks ++ more, lineEnded, c)

/-- The plain scalar at a place: its text, whether a line ended behind its last word, and the
    place behind it. Its lines are indented at least up to a column. -/
def plainScalar (inFlow : Bool) (indent : Nat) (c : Cursor) : String × Bool × Cursor :=
  let (text, lineEnded, c) := plainWords inFlow indent (c.rest.length + 1) false c
  (String.ofList text, lineEnded, c)

end Yaml

end PeppolStatistics
