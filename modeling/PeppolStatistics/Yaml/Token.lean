import PeppolStatistics.Yaml.Cursor
import PeppolStatistics.Failure

/-!
# Tokens of a YAML text

The marks and words of which a text consists, once indentation is made explicit: an indented block
begins and ends with a token of its own, and a key is marked as one.
-/

namespace PeppolStatistics

namespace Yaml

/-- A token. -/
inductive Token where
  | directive
  | documentStart
  | documentEnd
  | blockSequenceStart
  | blockMappingStart
  | blockEnd
  | flowSequenceStart
  | flowSequenceEnd
  | flowMappingStart
  | flowMappingEnd
  | blockEntry
  | flowEntry
  | key
  | value
  | alias (name : String)
  | anchor (name : String)
  | tag (name : String)
  /-- A scalar; a plain one is written without quotes and not as a block. -/
  | scalar (plain : Bool) (text : String)
  | textEnd
deriving DecidableEq, Repr

namespace Token

/-! ## 1. Names -/

/-- The name behind the mark of an anchor or an alias, and the place behind it. -/
def name? (c : Cursor) : Option (String × Cursor) :=
  let (word, c) := c.next.span isNameChar
  let ends := endsWord c.peek || ['?', ':', ',', ']', '}', '%', '@', '\x60'].contains c.peek
  if word.isEmpty || !ends then none else some (String.ofList word, c)

/-- Whether a character may stand in a tag. -/
def isTagChar (c : Char) : Bool :=
  isNameChar c || [';', '/', '?', ':', '@', '&', '=', '+', '$', ',', '.', '!', '~', '*', '\'', '(',
    ')', '[', ']', '%'].contains c

/-- The name of the tag at a place and the place behind it. A name in angle brackets stands for
    itself; two exclamation marks stand for the names of the format. -/
def tag? (c : Cursor) : Option (String × Cursor) :=
  let finish (name : String) (c : Cursor) : Option (String × Cursor) :=
    if isSpaceOrEnd c.peek then some (name, c) else none
  if c.ahead 1 == '<' then
    let (word, c) := (c.drop 2).span isTagChar
    if word.isEmpty || c.peek != '>' then none else finish (String.ofList word) c.next
  else if endsWord (c.ahead 1) then finish "!" c.next
  else
    let (word, c) := c.next.span isTagChar
    match word with
    | ['!'] => none
    | '!' :: suffix => finish ("tag:yaml.org,2002:" ++ String.ofList suffix) c
    | [] => none
    | suffix => if suffix.contains '!' then none else finish ("!" ++ String.ofList suffix) c

/-! ## 2. Directives -/

/-- The place behind a directive. A version must have the major number 1; the handles of tags
    cannot be declared, and other directives are ignored. -/
def directive? (c : Cursor) : Option Cursor :=
  let (name, c) := c.next.span isNameChar
  if name.isEmpty || !isSpaceOrEnd c.peek then none
  else if name == ['Y', 'A', 'M', 'L'] then
    let (version, c) := (c.skip (· == ' ')).span fun ch => ('0' ≤ ch && ch ≤ '9') || ch == '.'
    match version.span (· != '.') with
    | (major, '.' :: minor) =>
      if (major.dropWhile (· == '0')) == ['1'] && !minor.isEmpty && !minor.contains '.' then
        if isSpaceOrEnd c.peek then c.restOfLine? else none
      else none
    | _ => none
  else if name == ['T', 'A', 'G'] then none
  else (c.skip fun ch => !endsLine ch).restOfLine?

end Token

end Yaml

end PeppolStatistics
