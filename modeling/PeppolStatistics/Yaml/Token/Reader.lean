import PeppolStatistics.Yaml.Token
import PeppolStatistics.Yaml.Scalar.Block
import PeppolStatistics.Yaml.Scalar.Plain
import PeppolStatistics.Yaml.Scalar.Quoted

/-!
# Reading tokens

A key is known as one only when its colon is met. Until then the reader remembers, for the block
and for every open flow collection, the last token at which a key may have begun; the colon then
puts the mark of a key in front of that token. A key that is written without a mark of its own
stands on one line and has at most 1024 characters. `Token.ofText` gives the tokens of a text, and
what stopped the reader if it did not reach the end.
-/

namespace PeppolStatistics

namespace Yaml

/-! ## 1. The state of the reader -/

/-- A token at which a key may begin: its number and its place. In a block, one that stands at the
    block's own column has to be a key. -/
structure KeyCandidate where
  token : Nat
  required : Bool
  index : Nat
  line : Nat
  column : Nat

/-- The longest distance between the beginning of a key and its colon. -/
def keyReach : Nat := 1024

/-- How far a text has been read. -/
structure TokenReader where
  cursor : Cursor
  tokens : Array Token := #[]
  /-- The columns of the open blocks, the innermost first. -/
  indents : List Nat := []
  /-- Where a key may begin in the innermost block or flow collection. -/
  candidate : Option KeyCandidate := none
  /-- The same for what surrounds each open flow collection, the innermost first. -/
  outer : List (Option KeyCandidate) := []
  /-- Whether a key may begin at the next token. -/
  keyAllowed : Bool := true

namespace TokenReader

/-- Whether a flow collection is open. -/
def inFlow (r : TokenReader) : Bool := !r.outer.isEmpty

/-- Appends a token. -/
def emit (t : Token) (r : TokenReader) : TokenReader := { r with tokens := r.tokens.push t }

/-- Appends a token and goes to the place behind it. -/
def emitTo (t : Token) (c : Cursor) (r : TokenReader) : TokenReader :=
  { r with tokens := r.tokens.push t, cursor := c }

/-- Whether the innermost block stands at a column before the given one, so that a new block may
    begin there. -/
def opensBlock (r : TokenReader) (column : Nat) : Bool :=
  match r.indents with
  | [] => true
  | n :: _ => n < column

/-- Ends the blocks that stand at columns behind the given one; all if none is given. A flow
    collection keeps its surroundings open. -/
def closeBlocks (column : Option Nat) (r : TokenReader) : TokenReader :=
  if r.inFlow then r
  else
    let ended := r.indents.takeWhile fun n => match column with
      | some column => column < n
      | none => true
    { r with
      indents := r.indents.drop ended.length
      tokens := r.tokens ++ (ended.map fun _ => Token.blockEnd).toArray }

/-! ## 2. Candidates for keys -/

/-- Forgets the candidate; one that has to be a key cannot be forgotten. -/
def dropCandidate (r : TokenReader) : Except Failure TokenReader :=
  match r.candidate with
  | some k => if k.required then .error .markup else .ok { r with candidate := none }
  | none => .ok r

/-- Remembers the next token as the candidate, if a key may begin there. -/
def saveCandidate (r : TokenReader) : Except Failure TokenReader :=
  if r.keyAllowed then do
    let r ← r.dropCandidate
    let c := r.cursor
    let required := !r.inFlow && r.indents.head? == some c.column
    return { r with candidate := some ⟨r.tokens.size, required, c.index, c.line, c.column⟩ }
  else return r

/-- Whether a candidate can still be a key when its colon stands at a place. -/
def inReach (c : Cursor) (k : KeyCandidate) : Bool :=
  k.line == c.line && c.index - k.index ≤ keyReach

/-- Forgets the candidates that the next token is too far away from. -/
def dropStale (r : TokenReader) : Except Failure TokenReader :=
  let stale (k : Option KeyCandidate) : Bool := k.any fun k => !inReach r.cursor k
  let all := r.candidate :: r.outer
  if all.any fun k => stale k && k.any (·.required) then .error .markup
  else
    let kept (k : Option KeyCandidate) : Option KeyCandidate := if stale k then none else k
    .ok { r with candidate := kept r.candidate, outer := r.outer.map kept }

/-! ## 3. Blanks between tokens -/

/-- The place of the next token. In a block a key may begin on every new line. -/
def skipBlanks : Nat → TokenReader → TokenReader
  | 0, r => r
  | fuel + 1, r =>
    let c := (r.cursor.skip (· == ' ')).skipComment
    match c.lineBreak? with
    | some (_, c) =>
      skipBlanks fuel { r with cursor := c, keyAllowed := r.keyAllowed || !r.inFlow }
    | none => { r with cursor := c }

/-! ## 4. Tokens -/

/-- A directive, a mark between documents or the end of the text, which all end the blocks. -/
def topLevel (t : Token) (c : Cursor) (r : TokenReader) : Except Failure TokenReader := do
  let r ← (r.closeBlocks none).dropCandidate
  return { r with keyAllowed := false }.emitTo t c

/-- The beginning of a flow collection, which itself may be a key. -/
def openFlow (t : Token) (r : TokenReader) : Except Failure TokenReader := do
  let r ← r.saveCandidate
  return { r with outer := r.candidate :: r.outer, candidate := none, keyAllowed := true }.emitTo t
    r.cursor.next

/-- The end of a flow collection. -/
def closeFlow (t : Token) (r : TokenReader) : Except Failure TokenReader :=
  match r.outer with
  | [] => .error .markup
  | k :: outer =>
    .ok ({ r with outer, candidate := k, keyAllowed := false }.emitTo t r.cursor.next)

/-- The comma between the entries of a flow collection. -/
def flowEntry (r : TokenReader) : Except Failure TokenReader := do
  let r ← { r with keyAllowed := true }.dropCandidate
  return r.emitTo .flowEntry r.cursor.next

/-- Begins a block at the column of the next token unless the innermost one stands there. -/
def beginBlock (t : Token) (r : TokenReader) : TokenReader :=
  if r.opensBlock r.cursor.column then
    { r with indents := r.cursor.column :: r.indents }.emit t
  else r

/-- The hyphen before an entry of a block sequence. -/
def blockEntry (r : TokenReader) : Except Failure TokenReader :=
  if !r.inFlow && !r.keyAllowed then .error .markup
  else do
    let r := if r.inFlow then r else r.beginBlock .blockSequenceStart
    let r ← { r with keyAllowed := true }.dropCandidate
    return r.emitTo .blockEntry r.cursor.next

/-- The question mark before a key. -/
def explicitKey (r : TokenReader) : Except Failure TokenReader :=
  if !r.inFlow && !r.keyAllowed then .error .markup
  else do
    let r := if r.inFlow then r else r.beginBlock .blockMappingStart
    let r ← { r with keyAllowed := !r.inFlow }.dropCandidate
    return r.emitTo .key r.cursor.next

/-- The colon behind a candidate: the mark of a key goes in front of it, and in a block that of a
    new mapping, unless one stands at the candidate's column. -/
def valueOfCandidate (k : KeyCandidate) (r : TokenReader) : TokenReader :=
  let opens := !r.inFlow && r.opensBlock k.column
  let tokens := r.tokens.insertIdxIfInBounds k.token .key
  let tokens := if opens then tokens.insertIdxIfInBounds k.token .blockMappingStart else tokens
  let indents := if opens then k.column :: r.indents else r.indents
  { r with tokens, indents, candidate := none, keyAllowed := false }.emitTo .value r.cursor.next

/-- A colon behind no candidate, which belongs to a key that was marked. -/
def valueOfMarkedKey (r : TokenReader) : Except Failure TokenReader :=
  if !r.inFlow && !r.keyAllowed then .error .markup
  else
    let r := if r.inFlow then r else r.beginBlock .blockMappingStart
    .ok ({ r with keyAllowed := !r.inFlow }.emitTo .value r.cursor.next)

/-- The colon before a value. -/
def value (r : TokenReader) : Except Failure TokenReader :=
  match r.candidate with
  | some k => .ok (r.valueOfCandidate k)
  | none => r.valueOfMarkedKey

/-- A token that may be a key or stand before one, read with the place behind it. -/
def word (read : Cursor → Except Failure (Token × Cursor)) (r : TokenReader) :
    Except Failure TokenReader := do
  let r ← r.saveCandidate
  let (t, c) ← read r.cursor
  return { r with keyAllowed := false }.emitTo t c

/-- A name or tag, or the failure to read one. -/
def named (make : String → Token) (read : Cursor → Option (String × Cursor)) (c : Cursor) :
    Except Failure (Token × Cursor) :=
  match read c with
  | some (name, c) => .ok (make name, c)
  | none => .error .markup

/-- A quoted scalar. -/
def quoted (double : Bool) (c : Cursor) : Except Failure (Token × Cursor) := do
  let (text, c) ← quotedScalar double c
  return (.scalar false text, c)

/-- A block scalar, behind which a key may begin. -/
def block (fold : Bool) (r : TokenReader) : Except Failure TokenReader := do
  let r ← { r with keyAllowed := true }.dropCandidate
  let (text, c) ← blockScalar fold r.indents.head? r.cursor
  return r.emitTo (.scalar false text) c

/-- A plain scalar, behind which a key may begin if it ended with its line. -/
def plain (r : TokenReader) : Except Failure TokenReader := do
  let r ← r.saveCandidate
  let indent := (r.indents.head?.map (· + 1)).getD 0
  let (text, lineEnded, c) := plainScalar r.inFlow indent r.cursor
  return { r with keyAllowed := lineEnded }.emitTo (.scalar true text) c

/-- The token at the place that was reached. -/
def token (r : TokenReader) : Except Failure TokenReader :=
  let c := r.cursor
  let ch := c.peek
  let wordAhead := endsWord (c.ahead 1)
  if ch == '%' && c.column == 0 then
    match Token.directive? c with
    | some behind => r.topLevel .directive behind
    | none => .error .markup
  else if c.column == 0 && c.atSeparator then
    r.topLevel (if ch == '-' then .documentStart else .documentEnd) (c.drop 3)
  else if ch == '[' then r.openFlow .flowSequenceStart
  else if ch == '{' then r.openFlow .flowMappingStart
  else if ch == ']' then r.closeFlow .flowSequenceEnd
  else if ch == '}' then r.closeFlow .flowMappingEnd
  else if ch == ',' then r.flowEntry
  else if ch == '-' && wordAhead then r.blockEntry
  else if ch == '?' && (r.inFlow || wordAhead) then r.explicitKey
  else if ch == ':' && (r.inFlow || wordAhead) then r.value
  else if ch == '*' then r.word (named .alias Token.name?)
  else if ch == '&' then r.word (named .anchor Token.name?)
  else if ch == '!' then r.word (named .tag Token.tag?)
  else if ch == '|' && !r.inFlow then r.block false
  else if ch == '>' && !r.inFlow then r.block true
  else if ch == '\'' then r.word (quoted false)
  else if ch == '"' then r.word (quoted true)
  else if startsPlain r.inFlow c then r.plain
  else .error .markup

/-- The tokens from a state on, and what stopped the reader before the end of the text. -/
def readAll : Nat → TokenReader → List Token × Option Failure
  | 0, r => (r.tokens.toList, some .markup)
  | fuel + 1, r =>
    let before := r.tokens.toList
    match (skipBlanks (r.cursor.rest.length + 1) r).dropStale with
    | .error e => (before, some e)
    | .ok r =>
      let r := r.closeBlocks (some r.cursor.column)
      if r.cursor.peek == endMark then
        match r.topLevel .textEnd r.cursor with
        | .error e => (r.tokens.toList, some e)
        | .ok r => (r.tokens.toList, none)
      else
        match r.token with
        | .error e => (r.tokens.toList, some e)
        | .ok r => readAll fuel r

end TokenReader

/-- The tokens of a text, and what stopped the reader before the end of the text. -/
def Token.ofText (text : List Char) : List Token × Option Failure :=
  if text.all isPrintable then
    let start : Cursor := { rest := text }
    let start := if start.peek == '\ufeff' then start.next else start
    TokenReader.readAll (text.length + 1) { cursor := start }
  else ([], some .markup)

end Yaml

end PeppolStatistics
