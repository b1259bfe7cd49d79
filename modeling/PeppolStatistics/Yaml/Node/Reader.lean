import PeppolStatistics.Yaml.Node
import PeppolStatistics.Yaml.Token.Reader

/-!
# Reading nodes

A text holds one document, whose node is read off the tokens by descent: one function for each
kind of collection, each taking the tokens of one entry at a time. What stopped the reader of
tokens counts only when the node needs a token behind that place.
-/

namespace PeppolStatistics

namespace Yaml

/-! ## 1. The tokens that are left -/

/-- The tokens that are left, what stopped their reader, and the nodes with names; a node without
    end has no value yet. -/
structure NodeReader where
  tokens : List Token
  stopped : Option Failure
  anchors : List (String × Option Node) := []

/-- A step of reading. -/
abbrev Reading := StateT NodeReader (Except Failure)

namespace Reading

/-- The next token. -/
def peek : Reading Token := do
  let r ← get
  match r.tokens, r.stopped with
  | t :: _, _ => return t
  | [], some e => throw e
  | [], none => return .textEnd

/-- Passes the next token. -/
def pass : Reading Unit := modify fun r => { r with tokens := r.tokens.drop 1 }

/-- Passes the next token if it is the given one, and says whether it was. -/
def accept (t : Token) : Reading Bool := do
  if (← peek) == t then
    pass
    return true
  else return false

/-- Passes the next token, which must be the given one. -/
def expect (t : Token) : Reading Unit := do
  if !(← accept t) then throw .markup

/-- Whether the next token is one of some. -/
def sees (ts : List Token) : Reading Bool := return ts.contains (← peek)

/-- The node that an alias names. A node cannot hold itself. -/
def aliased (name : String) : Reading Node := do
  match (← get).anchors.lookup name with
  | some (some node) => return node
  | _ => throw .markup

/-- Begins the node with a name, which must be new. -/
def beginAnchor (name : String) : Reading Unit := do
  if ((← get).anchors.lookup name).isSome then throw .markup
  modify fun r => { r with anchors := (name, none) :: r.anchors }

/-- Gives the node with a name its value. -/
def setAnchor (name : String) (node : Node) : Reading Unit :=
  modify fun r => { r with anchors := (name, some node) :: r.anchors }

/-! ## 2. Anchors and tags -/

/-- The anchor and the tag in front of a node, in either order. -/
def properties : Reading (Option String × Option String) := do
  match ← peek with
  | .anchor a =>
    pass
    match ← peek with
    | .tag t =>
      pass
      return (some a, some t)
    | _ => return (some a, none)
  | .tag t =>
    pass
    match ← peek with
    | .anchor a =>
      pass
      return (some a, some t)
    | _ => return (none, some t)
  | _ => return (none, none)

/-! ## 3. Nodes -/

mutual

/-- A node. Blocks begin only where they may; where a sequence may stand at the column of its
    mapping, its first hyphen begins it. -/
def node (inBlock bareSequence : Bool) : Nat → Reading Node
  | 0 => throw .markup
  | fuel + 1 => do
    match ← peek with
    | .alias name =>
      pass
      aliased name
    | _ =>
      let (anchor, tag) ← properties
      if let some name := anchor then beginAnchor name
      let result ← content inBlock bareSequence tag (anchor.isSome || tag.isSome) fuel
      if let some name := anchor then setAnchor name result
      return result

/-- A node behind its anchor and its tag; with one of them it may be empty. -/
def content (inBlock bareSequence : Bool) (tag : Option String) (marked : Bool) :
    Nat → Reading Node
  | 0 => throw .markup
  | fuel + 1 => do
    let sequenceTag := Node.collectionTag .sequence tag
    let mappingTag := Node.collectionTag .mapping tag
    match ← peek with
    | .blockEntry =>
      if bareSequence then return .sequence sequenceTag (← bareEntries fuel)
      else if marked then return .ofScalar tag tag.isNone ""
      else throw .markup
    | .scalar plain text =>
      pass
      return .ofScalar tag plain text
    | .flowSequenceStart =>
      pass
      return .sequence sequenceTag (← flowElements true fuel)
    | .flowMappingStart =>
      pass
      return .ofEntries mappingTag (← flowEntries true fuel)
    | .blockSequenceStart =>
      if inBlock then
        pass
        return .sequence sequenceTag (← blockElements fuel)
      else if marked then return .ofScalar tag tag.isNone ""
      else throw .markup
    | .blockMappingStart =>
      if inBlock then
        pass
        return .ofEntries mappingTag (← blockEntries fuel)
      else if marked then return .ofScalar tag tag.isNone ""
      else throw .markup
    | _ => if marked then return .ofScalar tag tag.isNone "" else throw .markup

/-- A node, or a missing one if one of some tokens follows. -/
def nodeUnless (inBlock bareSequence : Bool) (ends : List Token) : Nat → Reading Node
  | 0 => throw .markup
  | fuel + 1 => do
    if ← sees ends then return .empty
    else node inBlock bareSequence fuel

/-- The elements of a block sequence that stands at the column of its mapping. -/
def bareEntries : Nat → Reading (List Node)
  | 0 => throw .markup
  | fuel + 1 => do
    if ← accept .blockEntry then
      let first ← nodeUnless true false [.blockEntry, .key, .value, .blockEnd] fuel
      return first :: (← bareEntries fuel)
    else return []

/-- The elements of a block sequence up to its end. -/
def blockElements : Nat → Reading (List Node)
  | 0 => throw .markup
  | fuel + 1 => do
    if ← accept .blockEntry then
      let first ← nodeUnless true false [.blockEntry, .blockEnd] fuel
      return first :: (← blockElements fuel)
    else
      expect .blockEnd
      return []

/-- The entries of a block mapping up to its end. -/
def blockEntries : Nat → Reading (List (Node × Node))
  | 0 => throw .markup
  | fuel + 1 => do
    if ← accept .key then
      let key ← nodeUnless true true [.key, .value, .blockEnd] fuel
      let value ← valueIn true true [.key, .value, .blockEnd] fuel
      return (key, value) :: (← blockEntries fuel)
    else
      expect .blockEnd
      return []

/-- The value of an entry, which may be missing with its colon. -/
def valueIn (inBlock bareSequence : Bool) (ends : List Token) : Nat → Reading Node
  | 0 => throw .markup
  | fuel + 1 => do
    if ← accept .value then nodeUnless inBlock bareSequence ends fuel
    else return .empty

/-- The elements of a flow sequence up to its end; a key begins a mapping with one entry. -/
def flowElements (first : Bool) : Nat → Reading (List Node)
  | 0 => throw .markup
  | fuel + 1 => do
    if ← accept .flowSequenceEnd then return []
    if !first then expect .flowEntry
    if ← accept .key then
      let key ← nodeUnless false false [.value, .flowEntry, .flowSequenceEnd] fuel
      let value ← valueIn false false [.flowEntry, .flowSequenceEnd] fuel
      return .ofEntries .mapping [(key, value)] :: (← flowElements false fuel)
    else if ← accept .flowSequenceEnd then return []
    else
      let element ← node false false fuel
      return element :: (← flowElements false fuel)

/-- The entries of a flow mapping up to its end; a node without colon has no value. -/
def flowEntries (first : Bool) : Nat → Reading (List (Node × Node))
  | 0 => throw .markup
  | fuel + 1 => do
    if ← accept .flowMappingEnd then return []
    if !first then expect .flowEntry
    if ← accept .key then
      let key ← nodeUnless false false [.value, .flowEntry, .flowMappingEnd] fuel
      let value ← valueIn false false [.flowEntry, .flowMappingEnd] fuel
      return (key, value) :: (← flowEntries false fuel)
    else if ← accept .flowMappingEnd then return []
    else
      let key ← node false false fuel
      return (key, .empty) :: (← flowEntries false fuel)

end

/-! ## 4. Documents -/

/-- Passes the marks at which documents end, and says whether there was one. -/
def documentEnds : Nat → Reading Bool
  | 0 => return false
  | fuel + 1 => do
    if ← accept .documentEnd then
      let _ ← documentEnds fuel
      return true
    else return false

/-- Passes the directives in front of a document. -/
def directives : Nat → Reading Unit
  | 0 => return ()
  | fuel + 1 => do
    if ← accept .directive then directives fuel

/-- The only document of a text, if there is one. A document without directives may begin without
    its mark. -/
def document (fuel : Nat) : Reading (Option Node) := do
  let marked := [Token.directive, .documentStart, .textEnd]
  let result ← if ← sees marked then do
      if ← sees [.textEnd] then pure none
      else
        directives fuel
        expect .documentStart
        some <$> nodeUnless true false [.directive, .documentStart, .documentEnd, .textEnd] fuel
    else some <$> node true false fuel
  let _ ← documentEnds fuel
  expect .textEnd
  return result

end Reading

/-- The node of a text's only document, if there is one. -/
def Node.ofText? (text : List Char) : Except Failure (Option Node) := do
  let (tokens, stopped) := Token.ofText text
  let fuel := 6 * tokens.length + 8
  let (node, _) ← (Reading.document fuel).run { tokens, stopped }
  return node

end Yaml

end PeppolStatistics
