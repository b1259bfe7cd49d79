import PeppolStatistics.Yaml.Tag
import PeppolStatistics.Yaml.Scalar.Timestamp

/-!
# Nodes of a YAML text

The tree that a text describes: scalars with their tags, sequences and mappings. Aliases are
replaced by the nodes they name, and the entries that a mapping takes over from others with the
key `<<` stand in front of its own.
-/

namespace PeppolStatistics

namespace Yaml

/-- A node. -/
inductive Node where
  | scalar (tag : Tag) (text : String)
  | sequence (tag : Tag) (elements : List Node)
  | mapping (tag : Tag) (entries : List (Node × Node))
  /-- What stands in a mapping that takes over entries from something that has none. -/
  | malformed

namespace Node

instance : Inhabited Node := ⟨.malformed⟩

/-- A missing scalar. -/
def empty : Node := .scalar .null ""

/-- The tag of a plain scalar. -/
def tagOfPlain (s : String) : Tag :=
  if (timestampText? s.toList).isSome then .timestamp else Tag.ofPlain s

/-- A scalar with an optional tag. Only a plain one gets its tag from its text, and any with the
    tag `!`. -/
def ofScalar (tag : Option String) (plain : Bool) (text : String) : Node :=
  match tag with
  | none => .scalar (if plain then tagOfPlain text else .text) text
  | some "!" => .scalar (tagOfPlain text) text
  | some name => .scalar (Tag.ofName name) text

/-- The tag of a collection: the usual one unless a tag was written. -/
def collectionTag (usual : Tag) : Option String → Tag
  | none => usual
  | some "!" => usual
  | some name => Tag.ofName name

/-- Whether a node is the key that takes over entries. -/
def isMergeKey : Node → Bool
  | .scalar .merge _ => true
  | _ => false

/-- The entries that a mapping takes over from a node: those of a mapping, or of all mappings in a
    sequence, the last one first. -/
def mergedEntries : Node → List (Node × Node)
  | .mapping _ entries => entries
  | .sequence _ elements =>
    elements.reverse.flatMap fun
      | .mapping _ entries => entries
      | _ => [(.malformed, .malformed)]
  | _ => [(.malformed, .malformed)]

/-- A key as it counts in a mapping: the key for the default value is just a text there. -/
def plainKey : Node → Node
  | .scalar .default text => .scalar .text text
  | key => key

/-- A mapping with the entries that are written in it. -/
def ofEntries (tag : Tag) (entries : List (Node × Node)) : Node :=
  let taken := (entries.filter fun e => e.1.isMergeKey).flatMap fun e => mergedEntries e.2
  let own := (entries.filter fun e => !e.1.isMergeKey).map fun e => (plainKey e.1, e.2)
  .mapping tag (taken.filter (fun e => e.1 matches .malformed) ++ taken ++ own)

end Node

end Yaml

end PeppolStatistics
