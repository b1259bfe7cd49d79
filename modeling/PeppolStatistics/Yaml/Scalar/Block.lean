import PeppolStatistics.Failure
import PeppolStatistics.Yaml.Cursor

/-!
# Block scalars

A block scalar begins with `|`, which keeps its line breaks, or `>`, which folds them, and holds
the lines that follow as far as they are indented. Behind the mark stand, in either order, how far
the lines are indented and what becomes of the line breaks at the end.
-/

namespace PeppolStatistics

namespace Yaml

/-! ## 1. The header -/

/-- What becomes of the line breaks at the end of a block scalar: the first is kept, none is, or
    all are. -/
inductive Chomping where
  | clip
  | strip
  | keep
deriving DecidableEq, Repr

/-- The chomping that a character stands for. -/
def Chomping.ofChar? : Char → Option Chomping
  | '-' => some .strip
  | '+' => some .keep
  | _ => none

/-- The indentation that a character stands for: a digit from 1 to 9. -/
def indentOfChar? (c : Char) : Option Nat :=
  if '1' ≤ c ∧ c ≤ '9' then some (c.toNat - 48) else none

/-- The header behind the mark of a block scalar, and the place behind the header's line. -/
def blockHeader (c : Cursor) : Except Failure (Chomping × Option Nat × Cursor) :=
  let (chomping, indent, c) :=
    match Chomping.ofChar? c.peek, indentOfChar? c.peek with
    | some chomping, _ =>
      match indentOfChar? c.next.peek with
      | some n => (chomping, some n, c.drop 2)
      | none => (chomping, none, c.next)
    | none, some n =>
      match Chomping.ofChar? c.next.peek with
      | some chomping => (chomping, some n, c.drop 2)
      | none => (Chomping.clip, some n, c.next)
    | none, none => (Chomping.clip, none, c)
  if isSpaceOrEnd c.peek then
    match c.restOfLine? with
    | some c => .ok (chomping, indent, c)
    | none => .error .markup
  else .error .markup

/-! ## 2. Lines -/

/-- The blank lines before the first line that is not, as their breaks, and the farthest column
    that their spaces reach. -/
def leadingLines : Nat → Nat → Cursor → List Char × Nat × Cursor
  | 0, column, c => ([], column, c)
  | fuel + 1, column, c =>
    let c := c.skip (· == ' ')
    let column := max column c.column
    match c.lineBreak? with
    | none => ([], column, c)
    | some (ch, c) =>
      let (more, column, c) := leadingLines fuel column c
      (ch :: more, column, c)

/-- The lines from a place on that hold nothing but spaces up to a column, as their breaks. -/
def emptyLines (indent : Nat) : Nat → Cursor → List Char × Cursor
  | 0, c => ([], c)
  | fuel + 1, c =>
    let c := c.skipIndent indent
    match c.lineBreak? with
    | none => ([], c)
    | some (ch, c) =>
      let (more, c) := emptyLines indent fuel c
      (ch :: more, c)

/-- The lines of a block scalar that begin at a column. Between two lines that do not begin with a
    blank a folded break counts as a space, or as the empty lines that follow it. -/
def blockLines (fold : Bool) (chomping : Chomping) (indent : Nat) :
    Nat → List Char → List Char → Cursor → List Char × Cursor
  | 0, _, _, c => ([], c)
  | fuel + 1, lastBreak, empties, c =>
    if c.column == indent && c.peek != endMark then
      let wordFirst := !isSpaceOrTab c.peek
      let (line, c) := c.span fun ch => !endsLine ch
      let (lineBreak, c) := match c.lineBreak? with
        | some (ch, c) => ([ch], c)
        | none => ([], c)
      let (more, c) := emptyLines indent (c.rest.length + 1) c
      let joint :=
        if c.column == indent && c.peek != endMark then
          if fold && lineBreak == ['\n'] && wordFirst && !isSpaceOrTab c.peek then
            if more.isEmpty then [' '] else []
          else lineBreak
        else []
      let (lines, c) := blockLines fold chomping indent fuel lineBreak more c
      (empties ++ line ++ joint ++ lines, c)
    else
      let tail := match chomping with
        | .clip => lastBreak
        | .strip => []
        | .keep => lastBreak ++ empties
      (tail, c)

/-- The block scalar whose mark stands at a place: its text and the place behind it. The lines are
    indented more than the block around the scalar, if there is one. -/
def blockScalar (fold : Bool) (outer : Option Nat) (c : Cursor) :
    Except Failure (String × Cursor) := do
  let (chomping, given, c) ← blockHeader c.next
  let least := max 1 ((outer.map (· + 1)).getD 0)
  let fuel := c.rest.length + 1
  let (empties, indent, c) := match given with
    | some n =>
      let indent := least + n - 1
      let (empties, c) := emptyLines indent fuel c
      (empties, indent, c)
    | none =>
      let (empties, column, c) := leadingLines fuel 0 c
      (empties, max least column, c)
  let (text, c) := blockLines fold chomping indent fuel [] empties c
  return (String.ofList text, c)

end Yaml

end PeppolStatistics
